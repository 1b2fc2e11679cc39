import BuildingQuery.Pattern
import BuildingQuery.Proofs.Text.Recased

/-! What patterns accept. Every text, with wildcards in it or without, is a pattern for itself, and
the case of ASCII letters makes no difference in pattern and text. -/

namespace BuildingQuery.Pattern

open Text

theorem anySuffix_of_self {test : List Char → Bool} {v : List Char} (h : test v = true) :
    anySuffix test v = true := by
  cases v with
  | nil => exact h
  | cons c v => simp [anySuffix, h]

theorem globChars_self (p : List Char) : globChars p p = true := by
  induction p with
  | nil => rfl
  | cons a p ih =>
    rw [globChars]
    split
    · -- A star stands for its own character.
      simp [anySuffix, anySuffix_of_self ih]
    · simp [sameIgnoringCase, ih]

theorem accepts_self (s : String) : accepts s s = true := by
  rw [accepts]
  split
  · exact globChars_self s.toList
  · exact beq_self_eq_true _

section Recased

variable {p q v w : List Char} {r r' s t : String}

theorem anySuffix_congr {test test' : List Char → Bool}
    (ht : ∀ v w, SameLetters v w → test v = test' w) (h : SameLetters v w) :
    anySuffix test v = anySuffix test' w := by
  induction h with
  | nil => exact ht [] [] .nil
  | @cons c d v w hcd hvw ih =>
    rw [anySuffix, anySuffix, ih, ht (c :: v) (d :: w) (.cons hcd hvw)]

theorem globChars_congr (hp : SameLetters p q) (hv : SameLetters v w) :
    globChars p v = globChars q w := by
  induction hp generalizing v w with
  | nil => cases hv <;> rfl
  | @cons a b p q hab _ ih =>
    have hstar := hab.eq_iff (a := '*') (by decide)
    have hmark := hab.eq_iff (a := '?') (by decide)
    simp only [globChars]
    by_cases hb : b = '*'
    · rw [if_pos hb, if_pos (hstar.mpr hb)]
      exact anySuffix_congr (fun _ _ => ih) hv
    · rw [if_neg hb, if_neg (mt hstar.mp hb)]
      cases hv with
      | nil => rfl
      | cons hcd hvw => simp only [hcd.sameIgnoringCase_eq hab, ih hvw, hmark]

theorem hasWildcard_congr (h : Recased s t) : hasWildcard s = hasWildcard t := by
  rw [hasWildcard, hasWildcard]
  rw [Recased] at h
  generalize s.toList = v, t.toList = w at h ⊢
  induction h with
  | nil => rfl
  | @cons c d _ _ hcd _ ih =>
    have hstar := hcd.eq_iff (a := '*') (by decide)
    have hmark := hcd.eq_iff (a := '?') (by decide)
    have hwild : isWildcard c = isWildcard d := by
      rw [Bool.eq_iff_iff]
      simp only [isWildcard, Bool.or_eq_true, beq_iff_eq, hstar, hmark]
    rw [List.any_cons, List.any_cons, ih, hwild]

theorem accepts_congr (hr : Recased r r') (hs : Recased s t) : accepts r s = accepts r' t := by
  rw [accepts, accepts, hasWildcard_congr hr, glob, glob, globChars_congr hr hs, hs.lower_eq,
    hr.lower_eq]

theorem acceptsOpt_congr {s t : Option String} (hr : Recased r r') (hs : Option.Rel Recased s t) :
    acceptsOpt r s = acceptsOpt r' t := by
  cases hs with
  | none => rfl
  | some h => exact accepts_congr hr h

end Recased

end BuildingQuery.Pattern
