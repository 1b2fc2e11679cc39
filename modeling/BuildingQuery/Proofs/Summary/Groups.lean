import BuildingQuery.Proofs.Summary.Tally
import BuildingQuery.Summary

/-! The storeys and materials that records name, each with the number of records that name it. A
record names at most one of them. -/

namespace BuildingQuery

section Grouped

variable {κ α β : Type} [DecidableEq κ] {k : κ}

/-- The group of a key that every item gives at most once has as many members as items give it. -/
theorem length_grouped_of_once {bs : List β} {entries : β → List (κ × α)} {gives : β → Bool}
    {as : List α} (h : (k, as) ∈ grouped (bs.flatMap entries))
    (honce : ∀ b, ((entries b).map (·.1)).count k = if gives b then 1 else 0) :
    as.length = bs.countP gives := by
  obtain ⟨rfl, -⟩ := mem_grouped.mp h
  clear h
  rw [length_under]
  induction bs with
  | nil => rfl
  | cons b bs ih =>
    rw [List.flatMap_cons, List.map_append, List.count_append, ih, honce b, List.countP_cons,
      Nat.add_comm]

theorem exists_mem_of_mem_grouped {bs : List β} {entries : β → List (κ × α)} {as : List α}
    (h : (k, as) ∈ grouped (bs.flatMap entries)) : ∃ b ∈ bs, k ∈ (entries b).map (·.1) := by
  have hk := mem_keys_grouped.mp (List.mem_map_of_mem (f := Prod.fst) h)
  rw [List.map_flatMap] at hk
  exact List.mem_flatMap.mp hk

end Grouped

theorem mem_givenName {s : String} {o : Option String} :
    s ∈ givenName o ↔ o = some s ∧ s ≠ "" := by
  unfold givenName
  split <;> simp_all [eq_comm]

theorem count_givenName {s : String} (hs : s ≠ "") (o : Option String) :
    (givenName o).count s = if o == some s then 1 else 0 := by
  unfold givenName
  split
  · rfl
  · simp [hs.symm]
  · simp [List.count_singleton]

namespace Index

variable {ix : Index}

theorem exists_of_mem_storeySummaries : ∀ t ∈ ix.storeySummaries,
    ∃ e ∈ ix.records, t.name ∈ givenName e.location.storey := by
  intro t ht
  rw [storeySummaries, (Ordered.sort_perm _ _).mem_iff] at ht
  obtain ⟨⟨name, es⟩, hp, rfl⟩ := List.mem_map.mp ht
  obtain ⟨e, he, hname⟩ := exists_mem_of_mem_grouped hp
  exact ⟨e, he, by simpa using hname⟩

/-- A storey counts the records on it. -/
theorem elementCount_of_mem_storeySummaries : ∀ t ∈ ix.storeySummaries,
    t.elementCount = ix.records.countP fun e => e.location.storey == some t.name := by
  intro t ht
  obtain ⟨_, -, hname⟩ := exists_of_mem_storeySummaries t ht
  have hne := (mem_givenName.mp hname).2
  rw [storeySummaries, (Ordered.sort_perm _ _).mem_iff] at ht
  obtain ⟨⟨name, es⟩, hp, rfl⟩ := List.mem_map.mp ht
  refine length_grouped_of_once hp fun e => ?_
  have hcount := count_givenName hne e.location.storey
  simpa [Function.comp_def] using hcount

/-- A material counts the records that are made of it. -/
theorem elementCount_of_mem_materialSummaries : ∀ m ∈ ix.materialSummaries,
    m.elementCount = ix.records.countP fun e => e.material.any (·.name == m.name) := by
  intro m hm
  rw [materialSummaries, (Ordered.byCount_perm _ _).mem_iff] at hm
  obtain ⟨⟨name, ms⟩, hp, hsome⟩ := List.mem_filterMap.mp hm
  cases ms with
  | nil => nomatch hsome
  | cons n ms =>
    obtain rfl := Option.some.inj hsome
    refine length_grouped_of_once hp fun e => ?_
    cases e.material with
    | none => rfl
    | some n => simp [List.count_singleton]

end Index

end BuildingQuery
