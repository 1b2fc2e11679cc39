import BuildingQuery.Pattern
import Mathlib.Data.List.Infix

/-! How patterns are put together. What two patterns in a row cover are the texts that split into one
part for each of them, so that a pattern is known by what its single characters stand for. -/

namespace BuildingQuery.Pattern

open Text

variable {p q v : List Char} {a : Char}

theorem anySuffix_iff {test : List Char → Bool} :
    anySuffix test v = true ↔ ∃ w, w <:+ v ∧ test w = true := by
  induction v with
  | nil => simp [anySuffix]
  | cons c v ih =>
    rw [anySuffix, Bool.or_eq_true, ih]
    simp only [List.suffix_cons_iff, or_and_right, exists_or, exists_eq_left]

/-- What a single character of a pattern stands for. -/
def StandsFor (a : Char) (u : List Char) : Prop :=
  a = '*' ∨ ∃ c, u = [c] ∧ (a = '?' ∨ sameIgnoringCase c a = true)

theorem standsFor_star (u : List Char) : StandsFor '*' u := .inl rfl

theorem standsFor_mark_iff {u : List Char} : StandsFor '?' u ↔ ∃ c, u = [c] := by
  simp [StandsFor]

theorem standsFor_literal_iff (ha : isWildcard a = false) {u : List Char} :
    StandsFor a u ↔ ∃ c, u = [c] ∧ sameIgnoringCase c a = true := by
  have hstar : a ≠ '*' := by
    rintro rfl
    nomatch ha
  have hmark : a ≠ '?' := by
    rintro rfl
    nomatch ha
  simp [StandsFor, hstar, hmark]

theorem globChars_star (p v : List Char) : globChars ('*' :: p) v = anySuffix (globChars p) v := by
  cases v <;> rfl

theorem globChars_cons_iff :
    globChars (a :: p) v = true ↔ ∃ u w, v = u ++ w ∧ StandsFor a u ∧ globChars p w = true := by
  by_cases ha : a = '*'
  · subst ha
    rw [globChars_star, anySuffix_iff]
    constructor
    · rintro ⟨w, ⟨u, rfl⟩, hw⟩
      exact ⟨u, w, rfl, standsFor_star u, hw⟩
    · rintro ⟨u, w, rfl, -, hw⟩
      exact ⟨w, ⟨u, rfl⟩, hw⟩
  · cases v with
    | nil =>
      rw [globChars, if_neg ha]
      constructor
      · intro h
        nomatch h
      · rintro ⟨u, w, hv, hu, -⟩
        obtain ⟨rfl, rfl⟩ := List.append_eq_nil_iff.mp hv.symm
        obtain ⟨c, hc, -⟩ := hu.resolve_left ha
        nomatch hc
    | cons c v =>
      rw [globChars, if_neg ha]
      simp only [Bool.and_eq_true, Bool.or_eq_true, decide_eq_true_eq]
      constructor
      · rintro ⟨hc, hv⟩
        exact ⟨[c], v, rfl, .inr ⟨c, rfl, hc⟩, hv⟩
      · rintro ⟨u, w, hv, hu, hw⟩
        obtain ⟨d, rfl, hd⟩ := hu.resolve_left ha
        obtain ⟨rfl, rfl⟩ := List.cons.inj hv
        exact ⟨hd, hw⟩

theorem globChars_singleton_iff : globChars [a] v = true ↔ StandsFor a v := by
  rw [globChars_cons_iff]
  constructor
  · rintro ⟨u, w, rfl, hu, hw⟩
    obtain rfl : w = [] := by simpa [globChars] using hw
    rwa [List.append_nil]
  · intro hv
    exact ⟨v, [], (List.append_nil v).symm, hv, rfl⟩

/-- A search that takes a star for the shortest run first still finds every way to split a text. -/
theorem globChars_append_iff :
    globChars (p ++ q) v = true ↔
      ∃ u w, v = u ++ w ∧ globChars p u = true ∧ globChars q w = true := by
  induction p generalizing v with
  | nil =>
    constructor
    · intro h
      exact ⟨[], v, rfl, rfl, h⟩
    · rintro ⟨u, w, rfl, hu, hw⟩
      obtain rfl : u = [] := by simpa [globChars] using hu
      exact hw
  | cons a p ih =>
    rw [List.cons_append, globChars_cons_iff]
    constructor
    · rintro ⟨x, y, rfl, hx, hy⟩
      obtain ⟨u, w, rfl, hu, hw⟩ := ih.mp hy
      refine ⟨x ++ u, w, (List.append_assoc x u w).symm, ?_, hw⟩
      exact globChars_cons_iff.mpr ⟨x, u, rfl, hx, hu⟩
    · rintro ⟨y, w, rfl, hy, hw⟩
      obtain ⟨x, u, rfl, hx, hu⟩ := globChars_cons_iff.mp hy
      refine ⟨x, u ++ w, List.append_assoc x u w, hx, ?_⟩
      exact ih.mpr ⟨u, w, rfl, hu, hw⟩

section Texts

variable {s t x : String}

theorem glob_append_iff :
    glob (s ++ t) x = true ↔ ∃ u w, x = u ++ w ∧ glob s u = true ∧ glob t w = true := by
  rw [glob, String.toList_append, globChars_append_iff]
  constructor
  · rintro ⟨u, w, hx, hu, hw⟩
    refine ⟨String.ofList u, String.ofList w, ?_, ?_, ?_⟩
    · rw [← String.toList_inj, String.toList_append, String.toList_ofList, String.toList_ofList, hx]
    · rwa [glob, String.toList_ofList]
    · rwa [glob, String.toList_ofList]
  · rintro ⟨u, w, rfl, hu, hw⟩
    exact ⟨u.toList, w.toList, String.toList_append, hu, hw⟩

theorem glob_empty_iff : glob "" x = true ↔ x = "" := by
  simp [glob, globChars]

theorem glob_singleton_iff {a : Char} :
    glob (String.singleton a) x = true ↔ StandsFor a x.toList := by
  rw [glob, String.toList_singleton, globChars_singleton_iff]

theorem glob_star (x : String) : glob "*" x = true :=
  glob_singleton_iff.mpr (standsFor_star _)

end Texts

/-- How a relation of patterns and texts treats the parts of a pattern. -/
structure Splits (covers : String → String → Prop) : Prop where
  append : ∀ s t x, covers (s ++ t) x ↔ ∃ u w, x = u ++ w ∧ covers s u ∧ covers t w
  empty : ∀ x, covers "" x ↔ x = ""
  star : ∀ x, covers "*" x
  mark : ∀ x, covers "?" x ↔ ∃ c, x = String.singleton c
  /-- Every other character stands for itself only, in any case. -/
  literal : ∀ a, isWildcard a = false → ∀ x,
    covers (String.singleton a) x ↔ ∃ c, x = String.singleton c ∧ sameIgnoringCase c a = true

theorem toList_eq_singleton_iff {x : String} {c : Char} :
    x.toList = [c] ↔ x = String.singleton c := by
  rw [← String.toList_inj, String.toList_singleton]

theorem splits_glob : Splits fun s x => glob s x = true where
  append _ _ _ := glob_append_iff
  empty _ := glob_empty_iff
  star := glob_star
  mark x := by
    refine (glob_singleton_iff (a := '?')).trans ?_
    simp only [standsFor_mark_iff, toList_eq_singleton_iff]
  literal a ha x := by
    refine glob_singleton_iff.trans ?_
    simp only [standsFor_literal_iff ha, toList_eq_singleton_iff]

theorem Splits.singleton_iff {covers : String → String → Prop} (h : Splits covers) (a : Char)
    (x : String) : covers (String.singleton a) x ↔ glob (String.singleton a) x = true := by
  cases ha : isWildcard a with
  | false => rw [h.literal a ha, splits_glob.literal a ha]
  | true =>
    rw [isWildcard, Bool.or_eq_true, beq_iff_eq, beq_iff_eq] at ha
    rcases ha with rfl | rfl
    · exact iff_of_true (h.star x) (glob_star x)
    · exact (h.mark x).trans (splits_glob.mark x).symm

/-- A relation treats the parts of patterns so exactly if it is that of the patterns and the texts
they cover. -/
theorem splits_iff_glob (covers : String → String → Prop) :
    Splits covers ↔ ∀ s x, covers s x ↔ glob s x = true := by
  constructor
  · intro h s
    obtain ⟨p, rfl⟩ : ∃ p, s = String.ofList p := ⟨s.toList, String.ofList_toList.symm⟩
    induction p with
    | nil =>
      intro x
      exact (h.empty x).trans glob_empty_iff.symm
    | cons a p ih =>
      intro x
      have hcons : String.ofList (a :: p) = String.singleton a ++ String.ofList p := by
        rw [← String.toList_inj, String.toList_append, String.toList_ofList,
          String.toList_singleton, String.toList_ofList]
        rfl
      rw [hcons, h.append, glob_append_iff]
      simp only [h.singleton_iff, ih]
  · intro h
    obtain rfl : covers = fun s x => glob s x = true :=
      funext fun s => funext fun x => propext (h s x)
    exact splits_glob

end BuildingQuery.Pattern
