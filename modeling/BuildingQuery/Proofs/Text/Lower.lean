import BuildingQuery.Proofs.Text.Recased
import Mathlib.Data.List.Flatten

/-! The lower form of a text by its characters. What stands around a text can change its lower form
only where it has a capital sigma, which is written in another way at the end of a word. -/

namespace BuildingQuery.Text

/-- The lower form of each character of a text, between the text before it, nearest first, and the
text after it. -/
def lowerForms (before : List Char) : List Char → List Char → List (List Char)
  | [], _ => []
  | c :: s, after => lowerAt before c (s ++ after) :: lowerForms (c :: before) s after

/-- Whether a word ends between two texts, of which the first is given nearest first. -/
def endsWord (before after : List Char) : Bool := nextHasCase before && !nextHasCase after

/-- Each capital sigma of a text ends a word just if it does in the text alone. -/
def KeepsSigmas (before s after : List Char) : Prop :=
  ∀ p q, s = p ++ 'Σ' :: q →
    endsWord (p.reverse ++ before.reverse) (q ++ after) = endsWord p.reverse q

variable {before before' s t after after' : List Char} {c : Char}

theorem lowerForms_append (before s t after : List Char) :
    lowerForms before (s ++ t) after =
      lowerForms before s (t ++ after) ++ lowerForms (s.reverse ++ before) t after := by
  induction s generalizing before with
  | nil => rfl
  | cons c s ih =>
    simp only [List.cons_append, lowerForms, ih, List.append_assoc, List.reverse_cons,
      List.nil_append]

theorem lowerFrom_eq_flatten (before s : List Char) :
    lowerFrom before s = (lowerForms before s []).flatten := by
  induction s generalizing before with
  | nil => rfl
  | cons c s ih => rw [lowerFrom, lowerForms, List.append_nil, List.flatten_cons, ih]

theorem lowerChars_eq_flatten (s : List Char) : lowerChars s = (lowerForms [] s []).flatten :=
  lowerFrom_eq_flatten [] s

/-- How many characters there are in a lower form does not depend on its place. -/
theorem length_lowerAt (before : List Char) (c : Char) (after : List Char) :
    (lowerAt before c after).length = if c = 'İ' then 2 else 1 := by
  rw [lowerAt]
  by_cases hsigma : c = 'Σ'
  · rw [if_pos hsigma, hsigma]
    rfl
  · rw [if_neg hsigma]
    split <;> rfl

theorem map_length_lowerForms (before s after : List Char) :
    (lowerForms before s after).map List.length = s.map fun c => if c = 'İ' then 2 else 1 := by
  induction s generalizing before with
  | nil => rfl
  | cons c s ih => rw [lowerForms, List.map_cons, List.map_cons, ih, length_lowerAt]

theorem flatten_lowerForms_inj :
    (lowerForms before s after).flatten = (lowerForms before' s after').flatten ↔
      lowerForms before s after = lowerForms before' s after' := by
  rw [List.eq_iff_flatten_eq, map_length_lowerForms, map_length_lowerForms, and_iff_left rfl]

theorem length_flatten_lowerForms (before s after before' after' : List Char) :
    (lowerForms before s after).flatten.length = (lowerForms before' s after').flatten.length := by
  rw [List.length_flatten, List.length_flatten, map_length_lowerForms, map_length_lowerForms]

theorem lowerAt_eq_iff : lowerAt before c after = lowerAt before' c after' ↔
    (c = 'Σ' → endsWord before after = endsWord before' after') := by
  have hends : ∀ x y : Bool,
      [if x = true then 'ς' else 'σ'] = [if y = true then 'ς' else 'σ'] ↔ x = y := by decide
  rw [lowerAt, lowerAt]
  by_cases hc : c = 'Σ'
  · rw [if_pos hc, if_pos hc, imp_iff_right hc]
    exact hends _ _
  · simp only [hc, if_false, false_imp_iff]

theorem lowerForms_eq_iff : lowerForms before s after = lowerForms before' s after' ↔
    ∀ p q, s = p ++ 'Σ' :: q →
      endsWord (p.reverse ++ before) (q ++ after) = endsWord (p.reverse ++ before') (q ++ after') := by
  induction s generalizing before before' with
  | nil => simp [lowerForms]
  | cons c s ih =>
    rw [lowerForms, lowerForms, List.cons.injEq, lowerAt_eq_iff, ih]
    constructor
    · rintro ⟨hc, hs⟩ p q hsplit
      cases p with
      | nil =>
        obtain ⟨rfl, rfl⟩ := List.cons.inj hsplit
        exact hc rfl
      | cons d p =>
        obtain ⟨rfl, hrest⟩ := List.cons.inj hsplit
        simpa using hs p q hrest
    · intro h
      refine ⟨fun hc => h [] s (hc ▸ rfl), fun p q hsplit => ?_⟩
      simpa using h (c :: p) q (hsplit ▸ rfl)

/-- The lower form of a text is the same between other texts if its sigmas are kept. -/
theorem lowerForms_eq_alone_iff :
    lowerForms before.reverse s after = lowerForms [] s [] ↔ KeepsSigmas before s after := by
  simp only [lowerForms_eq_iff, KeepsSigmas, List.append_nil]

theorem keepsSigmas_iff_of_once {p q : List Char} (hp : 'Σ' ∉ p) (hq : 'Σ' ∉ q) :
    KeepsSigmas before (p ++ 'Σ' :: q) after ↔
      endsWord (p.reverse ++ before.reverse) (q ++ after) = endsWord p.reverse q := by
  simp only [KeepsSigmas, List.append_cons_inj_of_notMem hp hq]
  constructor
  · intro h
    exact h p q ⟨rfl, trivial, rfl⟩
  · rintro h _ _ ⟨rfl, -, rfl⟩
    exact h

theorem keepsSigmas_of_not_mem (h : 'Σ' ∉ s) (before after : List Char) :
    KeepsSigmas before s after := by
  rintro p q rfl
  exact absurd (List.mem_append_right p List.mem_cons_self) h

section Neighbours

theorem inRuns_eq {bounds : Array Nat} {n k : Nat} (hk : k ≤ bounds.toList.length)
    (hbelow : ∀ b ∈ bounds.toList.take k, b ≤ n) (habove : ∀ b ∈ bounds.toList.drop k, n < b) :
    inRuns bounds n = (k % 2 == 1) := by
  rw [inRuns_of_append (List.take_append_drop k _).symm hbelow habove, List.length_take,
    Nat.min_eq_left hk]

theorem nextHasCase_nil : nextHasCase [] = false := rfl

theorem nextHasCase_omicron (s : List Char) : nextHasCase ('Ο' :: s) = true := by
  have hignored : isCaseIgnorable 'Ο' = false := by
    refine inRuns_eq (k := 30) ?_ ?_ ?_ <;>
      simp only [Table.caseIgnorable, Array.toList_append] <;> decide +kernel
  have hcased : isCased 'Ο' = true := by
    refine inRuns_eq (k := 37) ?_ ?_ ?_ <;> decide +kernel
  rw [nextHasCase_cons, hignored, if_neg Bool.false_ne_true, hcased]

theorem nextHasCase_blank (s : List Char) : nextHasCase (' ' :: s) = false := by
  have hignored : isCaseIgnorable ' ' = false := by
    refine inRuns_eq (k := 0) ?_ ?_ ?_ <;>
      simp only [Table.caseIgnorable, Array.toList_append] <;> decide +kernel
  have hcased : isCased ' ' = false := by
    refine inRuns_eq (k := 0) ?_ ?_ ?_ <;> decide +kernel
  rw [nextHasCase_cons, hignored, if_neg Bool.false_ne_true, hcased]

end Neighbours

section Parts

variable (u s w : List Char)

/-- The lower form of a text has those of its parts, each between the others. -/
theorem lowerChars_append_append :
    lowerChars (u ++ s ++ w) = (lowerForms [] u (s ++ w)).flatten ++
      (lowerForms u.reverse s w).flatten ++ (lowerForms (s.reverse ++ u.reverse) w []).flatten := by
  simp only [lowerChars_eq_flatten, lowerForms_append, List.flatten_append, List.append_nil,
    List.reverse_append]

theorem lowerChars_prefix_iff : lowerChars s <+: lowerChars (s ++ w) ↔ KeepsSigmas [] s w := by
  have hparts := lowerChars_append_append [] s w
  simp only [List.nil_append, lowerForms, List.flatten_nil, List.reverse_nil] at hparts
  rw [hparts, lowerChars_eq_flatten, ← lowerForms_eq_alone_iff, ← flatten_lowerForms_inj]
  constructor
  · rintro ⟨rest, hrest⟩
    exact (List.append_inj hrest (length_flatten_lowerForms ..)).1.symm
  · intro h
    exact h ▸ List.prefix_append _ _

theorem lowerChars_suffix_iff : lowerChars s <:+ lowerChars (u ++ s) ↔ KeepsSigmas u s [] := by
  have hparts := lowerChars_append_append u s []
  simp only [List.append_nil, lowerForms, List.flatten_nil] at hparts
  rw [hparts, lowerChars_eq_flatten, ← lowerForms_eq_alone_iff, ← flatten_lowerForms_inj]
  constructor
  · rintro ⟨rest, hrest⟩
    exact (List.append_inj' hrest (length_flatten_lowerForms ..)).2.symm
  · intro h
    exact h ▸ List.suffix_append _ _

theorem lowerChars_infix_of_keepsSigmas (h : KeepsSigmas u s w) :
    lowerChars s <:+: lowerChars (u ++ s ++ w) := by
  rw [← lowerForms_eq_alone_iff, ← flatten_lowerForms_inj] at h
  rw [lowerChars_append_append, h, ← lowerChars_eq_flatten]
  exact ⟨_, _, rfl⟩

end Parts

end BuildingQuery.Text
