import BuildingQuery.Proofs.OrderedMap
import BuildingQuery.Proofs.Ordered
import BuildingQuery.Summary.Tally
import Mathlib.Algebra.BigOperators.Group.Finset.Basic
import Mathlib.Algebra.GroupWithZero.Nat

/-! What is counted and what is grouped. A tally has every key that comes, with the number of times
that it comes; a grouping has every key that comes, with what comes under it, in that order. -/

namespace BuildingQuery

variable {κ α β : Type}

theorem nodup_eraseDups [BEq α] [LawfulBEq α] (as : List α) : as.eraseDups.Nodup := by
  -- The induction is on the length: what is filtered is no tail of the list.
  induction hn : as.length using Nat.strong_induction_on generalizing as with
  | h n ih =>
    cases as with
    | nil => simp
    | cons a as =>
      have hlt : (as.filter fun b => !b == a).length < n :=
        hn ▸ Nat.lt_succ_of_le (List.length_filter_le _ _)
      rw [List.eraseDups_cons]
      refine List.nodup_cons.mpr ⟨?_, ih _ hlt _ rfl⟩
      simp [List.mem_eraseDups]

/-- What stands under a key, in order. -/
def under [DecidableEq κ] (es : List (κ × α)) (k : κ) : List α :=
  es.filterMap fun e => if e.1 = k then some e.2 else none

variable [DecidableEq κ] {es : List (κ × α)} {ks : List κ} {k : κ} {n : Nat} {xs : List α}

theorem mem_under {x : α} : x ∈ under es k ↔ (k, x) ∈ es := by
  simp only [under, List.mem_filterMap]
  grind

theorem under_append (es fs : List (κ × α)) (k : κ) :
    under (es ++ fs) k = under es k ++ under fs k := List.filterMap_append

theorem under_flatMap (bs : List β) (f : β → List (κ × α)) (k : κ) :
    under (bs.flatMap f) k = bs.flatMap fun b => under (f b) k := List.filterMap_flatMap

theorem under_map_key (bs : List β) (key : β → κ) (value : β → α) (k : κ) :
    under (bs.map fun b => (key b, value b)) k = (bs.filter (key · == k)).map value := by
  induction bs with
  | nil => rfl
  | cons b bs ih =>
    rw [under] at ih ⊢
    by_cases hb : key b = k <;> simp [hb, ih]

theorem under_ne_nil_iff : under es k ≠ [] ↔ k ∈ es.map (·.1) := by
  simp only [under, ne_eq, List.filterMap_eq_nil_iff, List.mem_map]
  grind

theorem length_under (es : List (κ × α)) (k : κ) :
    (under es k).length = (es.map (·.1)).count k := by
  rw [under, List.length_filterMap_eq_countP, List.count_eq_countP, List.countP_map]
  refine List.countP_congr fun e _ => ?_
  by_cases he : e.1 = k <;> simp [he]

/-- Under a key of a map stands its value, if keys come once. -/
theorem OrderedMap.under_eq {m : OrderedMap κ α} (h : m.keys.Nodup) (k : κ) :
    under m k = (m.get? k).toList := by
  induction m with
  | nil => rfl
  | cons p m ih =>
    obtain ⟨l, x⟩ := p
    obtain ⟨hl, hm⟩ : l ∉ keys m ∧ (keys m).Nodup := by simpa [keys] using h
    have hih := ih hm
    rw [under] at hih ⊢
    rw [List.filterMap_cons, get?_cons]
    by_cases hk : l = k
    · subst hk
      rw [get?_of_not_mem hl] at hih
      simp [hih]
    · have hb : (k == l) = false := by simpa using Ne.symm hk
      simp [hk, hb, hih]

section Sums

/-- The sizes of the entries of a map that count how often their keys come, added up. -/
theorem OrderedMap.sum_of_counts (size : β → Nat) {m : OrderedMap κ β} (hn : m.keys.Nodup)
    (hmem : ∀ k, k ∈ m.keys ↔ k ∈ ks) (hsize : ∀ p ∈ m, size p.2 = ks.count p.1)
    (wanted : κ → Bool) :
    ((m.filter fun p => wanted p.1).map fun p => size p.2).sum = ks.countP wanted := by
  have hperm : m.keys.Perm ks.dedup :=
    (List.perm_ext_iff_of_nodup hn ks.nodup_dedup).mpr fun k => by rw [hmem, List.mem_dedup]
  have hsizes : (m.filter fun p => wanted p.1).map (fun p => size p.2) =
      (m.keys.filter wanted).map fun k => ks.count k := by
    rw [keys, List.filter_map, List.map_map]
    exact List.map_congr_left fun p hp => hsize p (List.mem_filter.mp hp).1
  rw [hsizes, ((hperm.filter wanted).map _).sum_eq, List.sum_map_count_dedup_filter_eq_countP]

end Sums

section Tally

theorem tally_append_singleton (ks : List κ) (k : κ) :
    tally (ks ++ [k]) = (tally ks).put k (((tally ks).get? k).getD 0 + 1) := by
  simp [tally]

theorem nodup_tally (ks : List κ) : (tally ks).keys.Nodup := by
  induction ks using List.reverseRecOn with
  | nil => exact List.nodup_nil
  | append_singleton ks k ih =>
    rw [tally_append_singleton]
    exact OrderedMap.nodup_put ih

theorem mem_keys_tally : k ∈ (tally ks).keys ↔ k ∈ ks := by
  induction ks using List.reverseRecOn with
  | nil => simp [tally, OrderedMap.keys]
  | append_singleton ks l ih =>
    rw [tally_append_singleton, OrderedMap.mem_keys_put, ih, List.mem_append, List.mem_singleton]

theorem getD_tally (ks : List κ) (k : κ) : ((tally ks).get? k).getD 0 = ks.count k := by
  induction ks using List.reverseRecOn with
  | nil => rfl
  | append_singleton ks l ih =>
    rw [tally_append_singleton, List.count_append]
    by_cases hk : k = l
    · subst hk
      rw [OrderedMap.get?_put_self, Option.getD_some, ih]
      simp
    · have hl : l ≠ k := Ne.symm hk
      rw [OrderedMap.get?_put_of_ne _ _ hk, ih]
      simp [hl]

/-- A tally has the keys that come, each with the number of times. -/
theorem mem_tally : (k, n) ∈ tally ks ↔ k ∈ ks ∧ n = ks.count k := by
  rw [← OrderedMap.get?_eq_some_iff (nodup_tally ks), ← mem_keys_tally, ← getD_tally ks k]
  cases hg : (tally ks).get? k with
  | none =>
    have hk : k ∉ (tally ks).keys := by
      intro hk
      obtain ⟨⟨l, m⟩, hp, rfl⟩ := List.mem_map.mp hk
      rw [(OrderedMap.get?_eq_some_iff (nodup_tally ks)).mpr hp] at hg
      nomatch hg
    simp [hk]
  | some m =>
    have hk : k ∈ (tally ks).keys :=
      List.mem_map.mpr ⟨_, OrderedMap.mem_of_get? hg, rfl⟩
    simp [hk, eq_comm]

theorem sum_tally (ks : List κ) : ((tally ks).map (·.2)).sum = ks.length := by
  have h := OrderedMap.sum_of_counts id (nodup_tally ks) (fun _ => mem_keys_tally)
    (fun p hp => (mem_tally.mp hp).2) fun _ => true
  simpa using h

end Tally

section MostCommon

theorem mem_mostCommon : (k, n) ∈ mostCommon ks ↔ k ∈ ks ∧ n = ks.count k := by
  rw [mostCommon, (Ordered.byCount_perm _ _).mem_iff, mem_tally]

theorem nodup_mostCommon (ks : List κ) : ((mostCommon ks).map (·.1)).Nodup :=
  ((Ordered.byCount_perm _ _).map _).nodup_iff.mpr (nodup_tally ks)

theorem mem_keys_mostCommon : k ∈ (mostCommon ks).map (·.1) ↔ k ∈ ks :=
  ((Ordered.byCount_perm _ _).map _).mem_iff.trans mem_keys_tally

theorem sum_mostCommon (ks : List κ) : ((mostCommon ks).map (·.2)).sum = ks.length := by
  rw [mostCommon, ((Ordered.byCount_perm _ _).map _).sum_eq, sum_tally]

theorem length_mostCommon (ks : List κ) : (mostCommon ks).length = ks.dedup.length := by
  have hperm : ((mostCommon ks).map (·.1)).Perm ks.dedup :=
    (List.perm_ext_iff_of_nodup (nodup_mostCommon ks) ks.nodup_dedup).mpr fun k => by
      rw [mem_keys_mostCommon, List.mem_dedup]
  rw [← hperm.length_eq, List.length_map]

theorem mostCommon_sorted (ks : List κ) : (mostCommon ks).Pairwise fun p q => q.2 ≤ p.2 :=
  Ordered.byCount_sorted _ _

end MostCommon

section Grouped

theorem grouped_append_singleton (es : List (κ × α)) (e : κ × α) :
    grouped (es ++ [e]) = (grouped es).push e.1 e.2 := by
  simp [grouped]

theorem nodup_grouped (es : List (κ × α)) : (grouped es).keys.Nodup := by
  induction es using List.reverseRecOn with
  | nil => exact List.nodup_nil
  | append_singleton es e ih =>
    rw [grouped_append_singleton]
    exact OrderedMap.nodup_push ih

theorem getD_grouped (es : List (κ × α)) (k : κ) : ((grouped es).get? k).getD [] = under es k := by
  induction es using List.reverseRecOn with
  | nil => rfl
  | append_singleton es e ih =>
    rw [grouped_append_singleton, under_append]
    by_cases hk : k = e.1
    · subst hk
      rw [OrderedMap.get?_push_self, Option.getD_some, ih]
      simp [under]
    · have he : e.1 ≠ k := Ne.symm hk
      rw [OrderedMap.get?_push_of_ne _ _ hk, ih]
      simp [under, he]

theorem ne_nil_of_mem_grouped : ∀ p ∈ grouped es, p.2 ≠ [] := by
  induction es using List.reverseRecOn with
  | nil => simp [grouped]
  | append_singleton es e ih =>
    rw [grouped_append_singleton]
    exact OrderedMap.ne_nil_of_mem_push ih

/-- A grouping has the keys that come, each with what stands under it. -/
theorem mem_grouped : (k, xs) ∈ grouped es ↔ xs = under es k ∧ xs ≠ [] := by
  have hget := OrderedMap.get?_eq_some_iff (m := grouped es) (k := k) (x := xs) (nodup_grouped es)
  constructor
  · intro h
    have hg := hget.mpr h
    rw [← getD_grouped, hg]
    exact ⟨rfl, ne_nil_of_mem_grouped _ h⟩
  · rintro ⟨rfl, hne⟩
    rw [← hget, ← getD_grouped]
    cases hg : (grouped es).get? k with
    | none =>
      rw [← getD_grouped, hg] at hne
      exact absurd rfl hne
    | some ys => rfl

theorem mem_keys_grouped : k ∈ (grouped es).keys ↔ k ∈ es.map (·.1) := by
  rw [← under_ne_nil_iff]
  constructor
  · intro h
    obtain ⟨⟨l, xs⟩, hp, rfl⟩ := List.mem_map.mp h
    obtain ⟨rfl, hne⟩ := mem_grouped.mp hp
    exact hne
  · exact fun h => List.mem_map.mpr ⟨(k, under es k), mem_grouped.mpr ⟨rfl, h⟩, rfl⟩

/-- The groups of some of the keys have the entries with these keys between them. -/
theorem sum_grouped (es : List (κ × α)) (wanted : κ → Bool) :
    (((grouped es).filter fun p => wanted p.1).map fun p => p.2.length).sum =
      es.countP fun e => wanted e.1 := by
  have hsize : ∀ p ∈ grouped es, p.2.length = (es.map (·.1)).count p.1 := by
    intro p hp
    rw [← length_under, ← (mem_grouped.mp hp).1]
  have h := OrderedMap.sum_of_counts List.length (nodup_grouped es) (fun _ => mem_keys_grouped)
    hsize wanted
  rw [h, List.countP_map]
  rfl

end Grouped

end BuildingQuery
