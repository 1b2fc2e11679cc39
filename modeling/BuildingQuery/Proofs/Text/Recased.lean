import BuildingQuery.Proofs.Text.Case
import Mathlib.Data.List.Forall2
import Mathlib.Data.List.GetD

/-! Texts that differ only in the case of ASCII letters. They have one lower form: both cases of an
ASCII letter have case where a capital sigma beside them is written, and are told apart from all
other characters alike. -/

namespace BuildingQuery.Text

/-- The same character, or an ASCII letter in both cases. -/
def SameLetter (c d : Char) : Prop :=
  c = d ∨ isAsciiLetter c = true ∧ isAsciiLetter d = true ∧ lowerChar c = lowerChar d

abbrev SameLetters (s t : List Char) : Prop := List.Forall₂ SameLetter s t

/-- The texts differ at most in the case of ASCII letters. -/
def Recased (s t : String) : Prop := SameLetters s.toList t.toList

instance : DecidableRel SameLetter := fun _ _ => inferInstanceAs (Decidable (_ ∨ _))

instance : DecidableRel Recased := fun _ _ => inferInstanceAs (Decidable (List.Forall₂ _ _ _))

theorem SameLetter.refl (c : Char) : SameLetter c c := .inl rfl

theorem SameLetters.refl (s : List Char) : SameLetters s s :=
  List.forall₂_same.mpr fun c _ => .refl c

theorem Recased.refl (s : String) : Recased s s := SameLetters.refl _

section Tables

/-- The search finds where the bounds start to exceed a code point. -/
theorem boundsUpTo_eq {bounds : Array Nat} {c k lo hi : Nat}
    (hle : ∀ i < k, bounds.getD i 0 ≤ c) (hgt : ∀ i, k ≤ i → i < hi → c < bounds.getD i 0)
    (hlo : lo ≤ k) (hhi : k ≤ hi) : boundsUpTo bounds c lo hi = k := by
  fun_induction boundsUpTo with
  | case1 lo hi hlt mid hmid ih =>
    refine ih hgt ?_ hhi
    by_contra hk
    have hmid' := hgt mid (by omega) (by omega)
    omega
  | case2 lo hi hlt mid hmid ih =>
    refine ih (fun i hk hi => hgt i hk (by omega)) hlo ?_
    by_contra hk
    exact hmid (hle mid (by omega))
  | case3 lo hi hlt => omega

theorem inRuns_of_append {bounds : Array Nat} {c : Nat} {below above : List Nat}
    (h : bounds.toList = below ++ above) (hbelow : ∀ b ∈ below, b ≤ c)
    (habove : ∀ b ∈ above, c < b) : inRuns bounds c = (below.length % 2 == 1) := by
  have hsize : bounds.size = below.length + above.length := by
    rw [← Array.length_toList, h, List.length_append]
  have hget : ∀ i, bounds.getD i 0 = (below ++ above).getD i 0 := by
    intro i
    rw [← h, Array.getD_eq_getD_getElem?, List.getD_eq_getElem?_getD, Array.getElem?_toList]
  rw [inRuns, boundsUpTo_eq (fun i hi => ?_) (fun i hk hi => ?_) (Nat.zero_le below.length)
    (by omega)]
  · rw [hget, List.getD_append _ _ _ _ hi, List.getD_eq_getElem _ _ hi]
    exact hbelow _ (List.getElem_mem hi)
  · have hlt : i - below.length < above.length := by omega
    rw [hget, List.getD_append_right _ _ _ _ hk, List.getD_eq_getElem _ _ hlt]
    exact habove _ (List.getElem_mem hlt)

/-- No bound of a run to ignore lies among the letters of one case. -/
theorem caseIgnorable_split : ∃ above,
    Table.caseIgnorable.toList = [39, 40, 46, 47, 58, 59] ++ ([94, 95, 96, 97] ++ above) ∧
      ∀ b ∈ above, 122 < b := by
  have htake : Table.caseIgnorable.toList.take 10 = [39, 40, 46, 47, 58, 59, 94, 95, 96, 97] := by
    simp only [Table.caseIgnorable, Array.toList_append]
    decide +kernel
  have hdrop : ∀ b ∈ Table.caseIgnorable.toList.drop 10, 122 < b := by
    simp only [Table.caseIgnorable, Array.toList_append]
    decide +kernel
  have hsplit := List.take_append_drop 10 Table.caseIgnorable.toList
  rw [htake] at hsplit
  refine ⟨_, ?_, hdrop⟩
  simp only [List.cons_append, List.nil_append] at hsplit ⊢
  exact hsplit.symm

end Tables

section Letters

variable {c d : Char}

theorem toNat_of_isAsciiLetter (h : isAsciiLetter c = true) :
    97 ≤ c.toNat ∧ c.toNat ≤ 122 ∨ 65 ≤ c.toNat ∧ c.toNat ≤ 90 := by
  simpa [isAsciiLetter, Char.le_def, UInt32.le_iff_toNat_le] using h

/-- What holds of the ASCII letters, checked one by one. -/
theorem letter_forall {P : Char → Prop}
    (h : ∀ n < 128, isAsciiLetter (Char.ofNat n) = true → P (Char.ofNat n))
    (hc : isAsciiLetter c = true) : P c := by
  have hn : c.toNat < 128 := by
    have hrange := toNat_of_isAsciiLetter hc
    omega
  have hp := h c.toNat hn
  rw [Char.ofNat_toNat] at hp
  exact hp hc

theorem isCased_of_isAsciiLetter (h : isAsciiLetter c = true) : isCased c = true :=
  letter_forall (P := fun c => isCased c = true) (by decide +kernel) h

theorem hasCase_of_isAsciiLetter (h : isAsciiLetter c = true) : hasCase c = true :=
  letter_forall (P := fun c => hasCase c = true) (by decide +kernel) h

theorem isCaseIgnorable_of_isAsciiLetter (h : isAsciiLetter c = true) :
    isCaseIgnorable c = false := by
  obtain ⟨above, hsplit, habove⟩ := caseIgnorable_split
  rw [isCaseIgnorable]
  rcases toNat_of_isAsciiLetter h with hc | hc
  · rw [← List.append_assoc] at hsplit
    refine inRuns_of_append hsplit (fun b hb => ?_) fun b hb => ?_
    · simp only [List.cons_append, List.nil_append, List.mem_cons, List.not_mem_nil, or_false] at hb
      omega
    · have hlt := habove b hb
      omega
  · refine inRuns_of_append hsplit (fun b hb => ?_) fun b hb => ?_
    · simp only [List.mem_cons, List.not_mem_nil, or_false] at hb
      omega
    · simp only [List.cons_append, List.nil_append, List.mem_cons] at hb
      have hlt := habove b
      grind

end Letters

namespace SameLetter

variable {a b c d : Char}

theorem lowerChar_eq (h : SameLetter c d) : lowerChar c = lowerChar d := by
  rcases h with rfl | ⟨-, -, hl⟩
  · rfl
  · exact hl

theorem upperChars_eq (h : SameLetter c d) : upperChars c = upperChars d := by
  rcases h with rfl | ⟨hc, hd, hl⟩
  · rfl
  · have hcn := toNat_of_isAsciiLetter hc
    have hdn := toNat_of_isAsciiLetter hd
    exact (lowerChar_eq_iff (by omega) (by omega)).mp hl

theorem isCased_eq (h : SameLetter c d) : isCased c = isCased d := by
  rcases h with rfl | ⟨hc, hd, -⟩
  · rfl
  · rw [isCased_of_isAsciiLetter hc, isCased_of_isAsciiLetter hd]

theorem isCaseIgnorable_eq (h : SameLetter c d) : isCaseIgnorable c = isCaseIgnorable d := by
  rcases h with rfl | ⟨hc, hd, -⟩
  · rfl
  · rw [isCaseIgnorable_of_isAsciiLetter hc, isCaseIgnorable_of_isAsciiLetter hd]

/-- Characters that are no letters of ASCII are told apart alike. -/
theorem eq_iff (h : SameLetter c d) (ha : isAsciiLetter a = false) : c = a ↔ d = a := by
  rcases h with rfl | ⟨hc, hd, -⟩
  · rfl
  · constructor
    · rintro rfl
      rw [hc] at ha
      nomatch ha
    · rintro rfl
      rw [hd] at ha
      nomatch ha

theorem sameIgnoringCase_eq (h : SameLetter c d) (k : SameLetter a b) :
    sameIgnoringCase c a = sameIgnoringCase d b := by
  have hcase : hasCase a = hasCase b := by
    rcases k with rfl | ⟨ha, hb, -⟩
    · rfl
    · rw [hasCase_of_isAsciiLetter ha, hasCase_of_isAsciiLetter hb]
  rw [sameIgnoringCase, sameIgnoringCase, hcase, h.lowerChar_eq, k.lowerChar_eq]
  cases hb : hasCase b with
  | true => rfl
  | false =>
    have hletter : isAsciiLetter b = false := by
      rw [Bool.eq_false_iff]
      intro hl
      rw [hasCase_of_isAsciiLetter hl] at hb
      nomatch hb
    have hab : a = b := by
      rcases k with rfl | ⟨-, hl, -⟩
      · rfl
      · rw [hl] at hletter
        nomatch hletter
    rw [hab]
    rw [if_neg Bool.false_ne_true, if_neg Bool.false_ne_true, Bool.eq_iff_iff, beq_iff_eq,
      beq_iff_eq, h.eq_iff hletter]

end SameLetter

theorem SameLetters.eq_iff {s t u : List Char} (h : SameLetters s t)
    (hu : ∀ c ∈ u, isAsciiLetter c = false) : s = u ↔ t = u := by
  induction h generalizing u with
  | nil => rfl
  | cons hcd _ ih =>
    cases u with
    | nil => simp
    | cons a u =>
      obtain ⟨ha, hu⟩ := List.forall_mem_cons.mp hu
      rw [List.cons.injEq, List.cons.injEq, hcd.eq_iff ha, ih hu]

section Lower

variable {s t before before' : List Char}

theorem nextHasCase_cons (c : Char) (s : List Char) :
    nextHasCase (c :: s) = if isCaseIgnorable c = true then nextHasCase s else isCased c := by
  rw [nextHasCase, nextHasCase]
  -- The classes are tables that must not be searched here.
  generalize isCaseIgnorable = p, isCased = q
  rw [List.dropWhile_cons]
  by_cases hc : p c = true
  · rw [if_pos hc, if_pos hc]
  · rw [if_neg hc, if_neg hc]

theorem nextHasCase_congr (h : SameLetters s t) : nextHasCase s = nextHasCase t := by
  induction h with
  | nil => rfl
  | cons hcd _ ih =>
    rw [nextHasCase_cons, nextHasCase_cons, ih, hcd.isCaseIgnorable_eq, hcd.isCased_eq]

theorem lowerFrom_congr (hb : SameLetters before before') (h : SameLetters s t) :
    lowerFrom before s = lowerFrom before' t := by
  induction h generalizing before before' with
  | nil => rfl
  | @cons c d s t hcd hst ih =>
    have hsigma := hcd.eq_iff (a := 'Σ') (by decide)
    have hdotted := hcd.eq_iff (a := 'İ') (by decide)
    rw [lowerFrom, lowerFrom, ih (.cons hcd hb), lowerAt, lowerAt, nextHasCase_congr hb,
      nextHasCase_congr hst, hcd.lowerChar_eq]
    simp only [hsigma, hdotted]

theorem lowerChars_congr (h : SameLetters s t) : lowerChars s = lowerChars t :=
  lowerFrom_congr .nil h

end Lower

namespace Recased

variable {s t u v : String}

theorem append (h : Recased s t) (k : Recased u v) : Recased (s ++ u) (t ++ v) := by
  rw [Recased, String.toList_append, String.toList_append]
  exact List.rel_append h k

theorem lower_eq (h : Recased s t) : lower s = lower t := by
  rw [lower, lower, lowerChars_congr h]

theorem upper_eq (h : Recased s t) : upper s = upper t := by
  rw [Recased] at h
  rw [upper, upper]
  generalize s.toList = v, t.toList = w at h ⊢
  induction h with
  | nil => rfl
  | cons hcd _ ih =>
    rw [String.ofList_inj] at ih
    rw [List.flatMap_cons, List.flatMap_cons, hcd.upperChars_eq, ih]

/-- A text without letters of ASCII has no other spelling. -/
theorem eq_iff (h : Recased s t) (hu : ∀ c ∈ u.toList, isAsciiLetter c = false) :
    s = u ↔ t = u := by
  rw [← String.toList_inj, ← String.toList_inj]
  exact SameLetters.eq_iff h hu

theorem eq_star_iff (h : Recased s t) : s = "*" ↔ t = "*" := by
  refine h.eq_iff fun c hc => ?_
  obtain rfl : c = '*' := List.mem_singleton.mp hc
  rfl

theorem eq_empty_iff (h : Recased s t) : s = "" ↔ t = "" :=
  h.eq_iff fun _ hc => (List.not_mem_nil hc).elim

end Recased

end BuildingQuery.Text
