import BuildingQuery.Hierarchy
import BuildingQuery.Proofs.OrderedMap

/-! The spelling of type names in a hierarchy, and the ancestry of a type. -/

namespace BuildingQuery.Hierarchy

variable {h : Hierarchy}

theorem resolve_resolve (h : Hierarchy) (t : String) : h.resolve (h.resolve t) = h.resolve t := by
  cases hf : h.parents.keys.reverse.find? fun name => Text.upper name == Text.upper t with
  | none =>
    have ht : h.resolve t = t := by simp only [resolve, hf, Option.getD_none]
    rw [ht, ht]
  | some c =>
    have ht : h.resolve t = c := by simp only [resolve, hf, Option.getD_some]
    have hc : Text.upper c = Text.upper t := by simpa using List.find?_some hf
    rw [ht, resolve, hc, hf, Option.getD_some]

theorem resolve_eq_or_mem (h : Hierarchy) (t : String) :
    h.resolve t = t ∨ h.resolve t ∈ h.parents.keys := by
  rw [resolve]
  cases hf : h.parents.keys.reverse.find? fun name => Text.upper name == Text.upper t with
  | none => exact .inl rfl
  | some c => exact .inr (List.mem_reverse.mp (List.mem_of_find?_eq_some hf))

section Spelling

variable {s t : String}

theorem contains_eq_false_iff :
    h.contains t = false ↔ ∀ name ∈ h.parents.keys, Text.upper name ≠ Text.upper t := by
  simp [contains, List.any_eq_false]

theorem contains_congr (hu : Text.upper s = Text.upper t) : h.contains s = h.contains t := by
  rw [contains, contains, hu]

theorem contains_of_mem (ht : t ∈ h.parents.keys) : h.contains t = true :=
  List.any_eq_true.mpr ⟨t, ht, beq_self_eq_true _⟩

theorem resolve_of_not_contains (ht : h.contains t = false) : h.resolve t = t := by
  have hnone : h.parents.keys.reverse.find? (fun name => Text.upper name == Text.upper t) = none := by
    rw [List.find?_eq_none]
    intro name hname
    simpa using contains_eq_false_iff.mp ht name (List.mem_reverse.mp hname)
  simp only [resolve, hnone, Option.getD_none]

theorem exists_find?_of_contains (ht : h.contains t = true) : ∃ c ∈ h.parents.keys,
    h.parents.keys.reverse.find? (fun name => Text.upper name == Text.upper t) = some c := by
  obtain ⟨name, hname, hu⟩ := List.any_eq_true.mp ht
  have hsome : (h.parents.keys.reverse.find? fun name =>
      Text.upper name == Text.upper t).isSome = true :=
    List.find?_isSome.mpr ⟨name, List.mem_reverse.mpr hname, hu⟩
  obtain ⟨c, hc⟩ := Option.isSome_iff_exists.mp hsome
  exact ⟨c, List.mem_reverse.mp (List.mem_of_find?_eq_some hc), hc⟩

theorem resolve_mem_of_contains (ht : h.contains t = true) : h.resolve t ∈ h.parents.keys := by
  obtain ⟨c, hmem, hc⟩ := exists_find?_of_contains ht
  simpa only [resolve, hc, Option.getD_some] using hmem

/-- The table writes all spellings of a name that it has in one way. -/
theorem resolve_congr (hu : Text.upper s = Text.upper t) (ht : h.contains t = true) :
    h.resolve s = h.resolve t := by
  obtain ⟨c, -, hc⟩ := exists_find?_of_contains ht
  simp only [resolve, hu, hc, Option.getD_some]

/-- A name that the table does not have is its whole ancestry. -/
theorem chain_of_not_contains (ht : h.contains t = false) : h.chain t = [t] := by
  have hmem : t ∉ h.parents.keys := fun hmem => by
    rw [contains_of_mem hmem] at ht
    nomatch ht
  have hup : h.parent? t = none := by rw [parent?, OrderedMap.get?_of_not_mem hmem, Option.join_none]
  rw [chain, resolve_of_not_contains ht, ancestry, climb, hup]
  rfl

end Spelling

/-- A climb hands on what every entry of the table hands on to the name above it. -/
theorem forall_mem_climb {P : String → Prop}
    (hp : ∀ p ∈ h.parents, ∀ up ∈ p.2, P p.1 → P up)
    {fuel : Nat} {below : List String} {name : String} (hn : P name) :
    ∀ t ∈ h.climb fuel below name, P t := by
  induction fuel generalizing below name with
  | zero => simp [climb]
  | succ fuel ih =>
    rw [climb]
    split
    case isTrue => simp
    case isFalse =>
      refine List.forall_mem_cons.mpr ⟨hn, ?_⟩
      cases hup : h.parent? name with
      | none => simp
      | some up =>
        refine ih ?_
        rw [parent?, Option.join_eq_some_iff] at hup
        exact hp _ (OrderedMap.mem_of_get? hup) up rfl hn

/-- Names that have everything below them among them have all names whose ancestry has one. -/
theorem mem_of_mem_ancestry {names : List String}
    (hc : ∀ p ∈ h.parents, ∀ up ∈ p.2, up ∈ names → p.1 ∈ names) {s t : String}
    (hs : s ∈ h.ancestry t) (hmem : s ∈ names) : t ∈ names := by
  by_contra ht
  have hup : ∀ p ∈ h.parents, ∀ up ∈ p.2, p.1 ∉ names → up ∉ names :=
    fun p hp up hup hn hmem => hn (hc p hp up hup hmem)
  rw [ancestry, List.mem_reverse] at hs
  exact forall_mem_climb (P := (· ∉ names)) hup ht s hs hmem

/-- The ancestry of a type has no names but its own and those that stand in the table. -/
theorem forall_mem_chain {P : String → Prop} (hk : ∀ name ∈ h.parents.keys, P name)
    (hp : ∀ p ∈ h.parents, ∀ up ∈ p.2, P up) {t : String} (ht : P t) : ∀ s ∈ h.chain t, P s := by
  have hr : P (h.resolve t) := by
    rcases h.resolve_eq_or_mem t with hr | hr
    · rwa [hr]
    · exact hk _ hr
  intro s hs
  rw [chain, ancestry, List.mem_reverse] at hs
  exact forall_mem_climb (fun p hmem up hup _ => hp p hmem up hup) hr s hs

theorem getLast?_ancestry (h : Hierarchy) (name : String) :
    (h.ancestry name).getLast? = some name := by
  rw [ancestry, climb, List.getLast?_reverse]
  rfl

theorem getLast?_chain (h : Hierarchy) (t : String) :
    (h.chain t).getLast? = some (h.resolve t) := h.getLast?_ancestry _

end BuildingQuery.Hierarchy
