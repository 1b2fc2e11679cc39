import BuildingQuery.Proofs.Comparison.Parts
import BuildingQuery.Proofs.Text.SameCase

/-! Patterns without wildcards. Such a pattern is compared by lower forms, which agrees with covering
the text as long as the lower forms are equal one by one: a character can have two of them, and
characters can be the same ignoring case that have different ones. -/

namespace BuildingQuery.Pattern

open Text

variable {v p : List Char}

/-- The characters of two texts have the same lower forms, each in its place. -/
def LowersAlike (v p : List Char) : Prop := lowerForms [] v [] = lowerForms [] p []

instance (v p : List Char) : Decidable (LowersAlike v p) := inferInstanceAs (Decidable (_ = _))

/-- Each character of the text has one lower form in all places, and if it is the same ignoring case
as one of the pattern, then by its lower form. -/
structure Unambiguous (v p : List Char) : Prop where
  lowersAlone : ∀ c ∈ v ++ p, c ≠ 'Σ' ∧ c ≠ 'İ'
  noTwins : ∀ c ∈ v, ∀ a ∈ p, (lowerChar c).toNat ∉ twinsOf (lowerChar a)

theorem globChars_plain_iff (hp : p.any isWildcard = false) :
    globChars p v = true ↔ List.Forall₂ (fun c a => sameIgnoringCase c a = true) v p := by
  induction p generalizing v with
  | nil => simp [globChars]
  | cons a p ih =>
    rw [List.any_cons, Bool.or_eq_false_iff] at hp
    rw [globChars_cons_iff, List.forall₂_cons_right_iff]
    simp only [standsFor_literal_iff hp.1, ih hp.2]
    constructor
    · rintro ⟨_, w, rfl, ⟨c, rfl, hc⟩, hw⟩
      exact ⟨c, w, hc, hw, rfl⟩
    · rintro ⟨c, w, hc, hw, rfl⟩
      exact ⟨[c], w, rfl, ⟨c, rfl, hc⟩, hw⟩

theorem lowersAlike_of_lowerChars_eq (hv : 'İ' ∉ v) (hp : 'İ' ∉ p)
    (h : lowerChars v = lowerChars p) : LowersAlike v p := by
  have hones {s : List Char} (hs : 'İ' ∉ s) :
      (lowerForms [] s []).map List.length = List.replicate s.length 1 := by
    rw [map_length_lowerForms, List.map_eq_replicate_iff]
    intro c hc
    exact if_neg (ne_of_mem_of_not_mem hc hs)
  rw [lowerChars_eq_flatten, lowerChars_eq_flatten] at h
  have hlength : v.length = p.length := by
    have hsum := congrArg List.length h
    rwa [List.length_flatten, List.length_flatten, hones hv, hones hp, List.sum_replicate_nat,
      List.sum_replicate_nat, Nat.mul_one, Nat.mul_one] at hsum
  exact List.eq_iff_flatten_eq.mpr ⟨h, by rw [hones hv, hones hp, hlength]⟩

theorem Unambiguous.lowersAlike_of_same (hu : Unambiguous v p)
    (h : List.Forall₂ (fun c a => sameIgnoringCase c a = true) v p) : LowersAlike v p := by
  suffices hall : ∀ before before' : List Char,
      lowerForms before v [] = lowerForms before' p [] from hall [] []
  induction h with
  | nil => exact fun _ _ => rfl
  | @cons c a v p hca _ ih =>
    intro before before'
    obtain ⟨hcs, hcd⟩ := hu.lowersAlone c (by simp)
    obtain ⟨has, had⟩ := hu.lowersAlone a (by simp)
    have hlower : lowerChar c = lowerChar a :=
      (sameIgnoringCase_iff.mp hca).resolve_right fun htwin => hu.noTwins c (by simp) a (by simp) htwin.2
    have hrest : Unambiguous v p := {
      lowersAlone := fun d hd => hu.lowersAlone d (by
        rw [List.mem_append] at hd
        rcases hd with hd | hd <;> simp [hd])
      noTwins := fun d hd b hb =>
        hu.noTwins d (List.mem_cons_of_mem c hd) b (List.mem_cons_of_mem a hb) }
    rw [lowerForms, lowerForms, lowerAt_of_ne hcs hcd, lowerAt_of_ne has had, hlower, ih hrest]

theorem Unambiguous.of_ascii (hv : ∀ c ∈ v, c.toNat < 128) (hp : ∀ a ∈ p, a.toNat < 128) :
    Unambiguous v p where
  lowersAlone := by
    intro c hc
    have hascii : c.toNat < 128 := (List.mem_append.mp hc).elim (hv c) (hp c)
    refine ⟨?_, ?_⟩ <;> rintro rfl <;> exact absurd hascii (by decide)
  noTwins := by
    have hfar : ∀ e ∈ Table.twins, e.1 < 128 → ∀ n ∈ e.2, 128 ≤ n := by decide +kernel
    have hlow {c : Char} (hc : c.toNat < 128) : (lowerChar c).toNat < 128 := by
      rw [toNat_lowerChar hc]
      split <;> omega
    intro c hc a ha hmem
    obtain ⟨ns, hns, hmem⟩ := exists_of_mem_twinsOf hmem
    have hle := hfar _ hns (hlow (hp a ha)) _ hmem
    exact absurd (hlow (hv c hc)) (Nat.not_lt.mpr hle)

section Texts

variable {s x : String}

theorem glob_plain_iff (hs : hasWildcard s = false) :
    glob s x = true ↔ List.Forall₂ (fun c a => sameIgnoringCase c a = true) x.toList s.toList :=
  globChars_plain_iff hs

theorem accepts_plain_iff (hs : hasWildcard s = false) :
    accepts s x = true ↔ lowerChars x.toList = lowerChars s.toList := by
  rw [accepts, hs, if_neg Bool.false_ne_true, beq_iff_eq, lower, lower, String.ofList_inj]

theorem LowersAlike.accepts_and_glob (hs : hasWildcard s = false)
    (h : LowersAlike x.toList s.toList) : accepts s x = true ∧ glob s x = true := by
  refine ⟨(accepts_plain_iff hs).mpr ?_, (glob_plain_iff hs).mpr ?_⟩
  · rw [lowerChars_eq_flatten, lowerChars_eq_flatten, h]
  · exact sameIgnoringCase_of_lowerForms_eq h

theorem lowersAlike_of_accepts_of_glob (hs : hasWildcard s = false) (haccepts : accepts s x = true)
    (hglob : glob s x = true) : LowersAlike x.toList s.toList := by
  refine lowerForms_eq_of_lowerFrom_eq ?_ ((accepts_plain_iff hs).mp haccepts)
  exact ((glob_plain_iff hs).mp hglob).imp fun _ _ => eq_dotAbove_iff_of_sameIgnoringCase

theorem Unambiguous.lowersAlike (hu : Unambiguous x.toList s.toList) (hs : hasWildcard s = false)
    (h : accepts s x = true ∨ glob s x = true) : LowersAlike x.toList s.toList := by
  have hdot : ∀ c ∈ x.toList ++ s.toList, c ≠ 'İ' := fun c hc => (hu.lowersAlone c hc).2
  rcases h with h | h
  · refine lowersAlike_of_lowerChars_eq ?_ ?_ ((accepts_plain_iff hs).mp h)
    · exact fun hmem => hdot _ (List.mem_append_left _ hmem) rfl
    · exact fun hmem => hdot _ (List.mem_append_right _ hmem) rfl
  · exact hu.lowersAlike_of_same ((glob_plain_iff hs).mp h)

theorem accepts_with_stars (h : glob s x = true) :
    accepts (s ++ "*") x = true ∧ accepts ("*" ++ s) x = true ∧ accepts ("*" ++ s ++ "*") x = true := by
  have hstar : hasWildcard "*" = true := by decide
  refine ⟨?_, ?_, ?_⟩ <;> rw [accepts_of_hasWildcard (by simp [hasWildcard_append, hstar])]
  · exact glob_append_star_iff.mpr ⟨x, "", by simp, h⟩
  · exact glob_star_append_iff.mpr ⟨"", x, by simp, h⟩
  · exact glob_surrounded_iff.mpr ⟨"", x, "", by simp, h⟩

theorem accepts_eq_glob_iff (hs : hasWildcard s = false) : accepts s x = glob s x ↔
    (accepts s x = true ∨ glob s x = true → LowersAlike x.toList s.toList) := by
  constructor
  · intro heq h
    rw [heq, or_self] at h
    exact lowersAlike_of_accepts_of_glob hs (heq.trans h) h
  · intro h
    rw [Bool.eq_iff_iff]
    exact ⟨fun haccepts => ((h (.inl haccepts)).accepts_and_glob hs).2,
      fun hglob => ((h (.inr hglob)).accepts_and_glob hs).1⟩

/-- A pattern without wildcards and the same pattern read for wildcards agree on a text as long as
what one of them accepts has the lower forms of the pattern one by one, and then a star before it or
after it loses nothing. They agree on unambiguous texts, and the comparison of lower forms accepts
too much only where there is a dotted capital I. -/
theorem plain_agrees_with_glob (hs : hasWildcard s = false) (x : String) :
    (accepts s x = glob s x ↔
      (accepts s x = true ∨ glob s x = true → LowersAlike x.toList s.toList)) ∧
    (LowersAlike x.toList s.toList → accepts s x = true ∧ glob s x = true ∧
      accepts (s ++ "*") x = true ∧ accepts ("*" ++ s) x = true ∧
      accepts ("*" ++ s ++ "*") x = true) ∧
    (Unambiguous x.toList s.toList → accepts s x = glob s x) ∧
    ('İ' ∉ x.toList → 'İ' ∉ s.toList → accepts s x = true → glob s x = true) := by
  refine ⟨accepts_eq_glob_iff hs, fun h => ?_, fun hu => ?_, fun hx hp h => ?_⟩
  · obtain ⟨haccepts, hglob⟩ := h.accepts_and_glob hs
    exact ⟨haccepts, hglob, accepts_with_stars hglob⟩
  · exact (accepts_eq_glob_iff hs).mpr (hu.lowersAlike hs)
  · exact ((lowersAlike_of_lowerChars_eq hx hp ((accepts_plain_iff hs).mp h)).accepts_and_glob hs).2

theorem plain_agrees_with_glob_wall :
    hasWildcard "wall" = false ∧ LowersAlike "WALL".toList "wall".toList ∧
      Unambiguous "WALL".toList "wall".toList ∧
      accepts "wall" "WALL" = true ∧ glob "wall" "WALL" = true ∧
      accepts ("*" ++ "wall" ++ "*") "WALL" = true := by
  have hs : hasWildcard "wall" = false := by decide
  have hu : Unambiguous "WALL".toList "wall".toList := .of_ascii (by simp) (by simp)
  have h : LowersAlike "WALL".toList "wall".toList := by decide +kernel
  obtain ⟨-, hstars, hagree, -⟩ := plain_agrees_with_glob hs "WALL"
  obtain ⟨haccepts, -, -, -, hboth⟩ := hstars h
  exact ⟨hs, h, hu, haccepts, (hagree hu).symm.trans haccepts, hboth⟩

/-- The micro sign is the same as the small mu ignoring case, and both are in lower case. The dotted
capital I has the lower form of two characters. -/
theorem plain_differs_from_glob :
    hasWildcard "\u03bcm" = false ∧ accepts "\u03bcm" "\u00b5m" = false ∧
      glob "\u03bcm" "\u00b5m" = true ∧
      hasWildcard "i\u0307" = false ∧ accepts "i\u0307" "\u0130" = true ∧
      glob "i\u0307" "\u0130" = false ∧
      accepts ("i\u0307" ++ "*") "\u0130" = false ∧ accepts ("*" ++ "i\u0307") "\u0130" = false := by
  decide +kernel

end Texts

end BuildingQuery.Pattern
