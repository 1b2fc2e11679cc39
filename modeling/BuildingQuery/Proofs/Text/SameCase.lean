import BuildingQuery.Proofs.OrderedMap
import BuildingQuery.Proofs.Text.Lower

/-! Equality of characters without regard to case. What is the lower form of another character has
case itself, so that characters with one lower form are the same; a lower form in its place in a text
is that of the same character or of a twin. -/

namespace BuildingQuery.Text

namespace Table

/-- The run maps no character to itself, and each of its characters to a character. -/
def CaseRun.Moves (r : CaseRun) : Prop :=
  r.image ≠ r.first ∧ (r.image + (r.last - r.first) < 0xD800 ∨
    0xDFFF < r.image ∧ r.image + (r.last - r.first) < 0x110000)

/-- Whether all images of one run are in another run. -/
def CaseRun.holds (u r : CaseRun) : Bool :=
  u.first.ble r.image && ((r.image + (r.last - r.first)).ble u.last &&
    ((r.image - u.first) % u.step == 0 && r.step % u.step == 0))

/-- Whether every image of a run has an upper form. -/
def CaseRun.hasUpper (r : CaseRun) : Bool :=
  (List.range ((r.last - r.first) / r.step + 1)).all fun k =>
    (upperChars (Char.ofNat (r.image + k * r.step))).head? !=
      some (Char.ofNat (r.image + k * r.step))

instance (r : CaseRun) : Decidable r.Moves := inferInstanceAs (Decidable (_ ∧ _))

/-- What is checked of the two maps, entry by entry. -/
structure CaseMaps : Prop where
  lower_moves : ∀ r ∈ lowerRuns, r.Moves
  upper_moves : ∀ r ∈ upperRuns, r.Moves
  le_first_upper : ∀ u ∈ upperRuns, 128 ≤ u.first
  upperLong_ne : ∀ e ∈ upperLong, (e.2.map Char.ofNat).head? ≠ some (Char.ofNat e.1)
  /-- What has lower forms has upper forms: most runs lie in a run of the other map. -/
  lower_held : (lowerRuns.all fun r => (upperRuns.any fun u => u.holds r) || r.hasUpper) = true

theorem caseMaps : CaseMaps := by
  constructor <;> decide +kernel

theorem CaseRun.maps_iff {r : CaseRun} {n m : Nat} : r.image? n = some m ↔
    (r.first ≤ n ∧ n ≤ r.last ∧ (n - r.first) % r.step = 0) ∧ r.image + (n - r.first) = m := by
  unfold CaseRun.image?
  simp [and_assoc]

theorem CaseRun.Moves.isValidChar {r : CaseRun} (h : r.Moves) {n m : Nat}
    (hm : r.image? n = some m) : m.isValidChar ∧ m ≠ n := by
  obtain ⟨⟨hfirst, hlast, -⟩, rfl⟩ := maps_iff.mp hm
  obtain ⟨hne, hvalid⟩ := h
  refine ⟨?_, by omega⟩
  rcases hvalid with hlow | ⟨hhigh, htop⟩
  · exact .inl (by omega)
  · exact .inr ⟨by omega, by omega⟩

theorem CaseRun.maps_of_holds {u r : CaseRun} (h : u.holds r = true) {n m : Nat}
    (hm : r.image? n = some m) : ∃ k, u.image? m = some k := by
  obtain ⟨⟨hfirst, hlast, hstep⟩, rfl⟩ := maps_iff.mp hm
  simp only [holds, Bool.and_eq_true, Nat.ble_eq, beq_iff_eq] at h
  obtain ⟨himage, htop, hplace, hsteps⟩ := h
  have hmod : (r.image + (n - r.first) - u.first) % u.step = 0 := by
    have hsub : r.image + (n - r.first) - u.first = (r.image - u.first) + (n - r.first) := by omega
    have hdvd : u.step ∣ n - r.first :=
      Nat.dvd_trans (Nat.dvd_of_mod_eq_zero hsteps) (Nat.dvd_of_mod_eq_zero hstep)
    rw [hsub]
    exact Nat.mod_eq_zero_of_dvd (Nat.dvd_add (Nat.dvd_of_mod_eq_zero hplace) hdvd)
  exact ⟨_, maps_iff.mpr ⟨⟨by omega, by omega, hmod⟩, rfl⟩⟩

end Table

open Table

theorem mapByRuns_eq_or (runs : List CaseRun) (n : Nat) :
    (∃ r ∈ runs, r.image? n = some (mapByRuns runs n)) ∨
      (∀ r ∈ runs, r.image? n = none) ∧ mapByRuns runs n = n := by
  rw [mapByRuns]
  cases h : runs.findSome? fun r => r.image? n with
  | none => exact .inr ⟨List.findSome?_eq_none_iff.mp h, rfl⟩
  | some m =>
    obtain ⟨r, hr, hm⟩ := List.exists_of_findSome?_eq_some h
    exact .inl ⟨r, hr, hm⟩

theorem toNat_ofNat_of_isValidChar {n : Nat} (h : n.isValidChar) : (Char.ofNat n).toNat = n := by
  rw [Char.ofNat, dif_pos h]
  rfl

theorem upperChars_head?_ne {u : CaseRun} (hu : u ∈ upperRuns) {m : Nat} (hm : m.isValidChar)
    (hmem : ∃ k, u.image? m = some k) :
    (upperChars (Char.ofNat m)).head? ≠ some (Char.ofNat m) := by
  obtain ⟨_, hup⟩ := hmem
  have hlt : ¬ m < 128 := by
    have hle := (CaseRun.maps_iff.mp hup).1.1
    have hfirst := caseMaps.le_first_upper u hu
    omega
  simp only [upperChars, toNat_ofNat_of_isValidChar hm, hlt, if_false]
  cases hlong : upperLong.lookup m with
  | some cs => exact caseMaps.upperLong_ne _ (OrderedMap.mem_of_get? hlong)
  | none =>
    rcases mapByRuns_eq_or upperRuns m with ⟨v, hv, hmap⟩ | ⟨hnone, -⟩
    · obtain ⟨hvalid, hne⟩ := (caseMaps.upper_moves v hv).isValidChar hmap
      intro heq
      have hchar := congrArg Char.toNat (Option.some.inj heq)
      rw [toNat_ofNat_of_isValidChar hvalid, toNat_ofNat_of_isValidChar hm] at hchar
      exact hne hchar
    · rw [hnone u hu] at hup
      cases hup

theorem hasCase_of_upperChars {c : Char} (h : (upperChars c).head? ≠ some c) : hasCase c = true := by
  simp [hasCase, h]

theorem hasCase_of_lowerChar {c : Char} (h : lowerChar c ≠ c) : hasCase c = true := by
  simp [hasCase, h]

theorem lowerChar_eq_self {c : Char} (h : hasCase c = false) : lowerChar c = c := by
  by_contra hne
  rw [hasCase_of_lowerChar hne] at h
  nomatch h

/-- What another character is lowered to has an upper form, and so has case. -/
theorem hasCase_lowerChar {c : Char} (h : lowerChar c ≠ c) : hasCase (lowerChar c) = true := by
  by_cases hascii : c.toNat < 128
  · have hcapital : 65 ≤ c.toNat ∧ c.toNat ≤ 90 := by
      by_contra hother
      have hsame := toNat_lowerChar hascii
      rw [if_neg hother] at hsame
      exact h (Char.toNat_inj.mp hsame)
    have hletter : isAsciiLetter c = true := by
      simp only [isAsciiLetter, Char.le_def, UInt32.le_iff_toNat_le, Bool.or_eq_true, Bool.and_eq_true,
        decide_eq_true_eq]
      exact .inr hcapital
    exact letter_forall (P := fun c => hasCase (lowerChar c) = true) (by decide +kernel) hletter
  by_cases hdotted : c.toNat = 304
  · obtain rfl : c = 'İ' := Char.toNat_inj.mp hdotted
    rfl
  have hlower : lowerChar c = Char.ofNat (mapByRuns lowerRuns c.toNat) := by
    simp [lowerChar, hascii, hdotted]
  rcases mapByRuns_eq_or lowerRuns c.toNat with ⟨r, hr, hmap⟩ | ⟨-, hself⟩
  · rw [hlower]
    refine hasCase_of_upperChars ?_
    have hupper := List.all_eq_true.mp caseMaps.lower_held r hr
    rw [Bool.or_eq_true, List.any_eq_true] at hupper
    rcases hupper with ⟨u, hu, hholds⟩ | hall
    · exact upperChars_head?_ne hu ((caseMaps.lower_moves r hr).isValidChar hmap).1
        (CaseRun.maps_of_holds hholds hmap)
    · obtain ⟨⟨hfirst, hlast, hstep⟩, himage⟩ := CaseRun.maps_iff.mp hmap
      have hle : (c.toNat - r.first) / r.step ≤ (r.last - r.first) / r.step :=
        Nat.div_le_div_right (by omega)
      have hk := List.all_eq_true.mp hall ((c.toNat - r.first) / r.step)
        (List.mem_range.mpr (Nat.lt_succ_of_le hle))
      rwa [Nat.div_mul_cancel (Nat.dvd_of_mod_eq_zero hstep), himage, bne_iff_ne] at hk
  · rw [hlower, hself, Char.ofNat_toNat] at h
    exact absurd rfl h

theorem sameIgnoringCase_of_lowerChar_eq {c a : Char} (h : lowerChar c = lowerChar a) :
    sameIgnoringCase c a = true := by
  cases ha : hasCase a with
  | true => simp [sameIgnoringCase, ha, h]
  | false =>
    have hself := lowerChar_eq_self ha
    have hca : c = a := by
      by_contra hne
      have hmoved : lowerChar c ≠ c := by
        rw [h, hself]
        exact Ne.symm hne
      have hcase := hasCase_lowerChar hmoved
      rw [h, hself, ha] at hcase
      cases hcase
    simp [sameIgnoringCase, ha, hca]

/-- Characters are the same ignoring case if their lower forms are equal or twins; a character
without case is the same as itself only. -/
theorem sameIgnoringCase_iff {c a : Char} : sameIgnoringCase c a = true ↔
    lowerChar c = lowerChar a ∨
      hasCase a = true ∧ (lowerChar c).toNat ∈ twinsOf (lowerChar a) := by
  constructor
  · intro h
    cases ha : hasCase a with
    | true => simpa [sameIgnoringCase, ha] using h
    | false =>
      have hca : c = a := by simpa [sameIgnoringCase, ha] using h
      exact .inl (congrArg lowerChar hca)
  · rintro (h | ⟨ha, h⟩)
    · exact sameIgnoringCase_of_lowerChar_eq h
    · simp [sameIgnoringCase, ha, h]

theorem exists_of_mem_twinsOf {c : Char} {n : Nat} (h : n ∈ twinsOf c) :
    ∃ ns, (c.toNat, ns) ∈ Table.twins ∧ n ∈ ns := by
  rw [twinsOf] at h
  cases htwin : Table.twins.lookup c.toNat with
  | none =>
    rw [htwin] at h
    nomatch h
  | some ns =>
    rw [htwin] at h
    exact ⟨ns, OrderedMap.mem_of_get? htwin, h⟩

section Place

variable {before before' after after' v p : List Char} {c a : Char}

theorem lowerAt_sigma (before after : List Char) :
    lowerAt before 'Σ' after = ['ς'] ∨ lowerAt before 'Σ' after = ['σ'] := by
  rw [lowerAt, if_pos rfl]
  split
  · exact .inl rfl
  · exact .inr rfl

theorem lowerAt_of_ne (hs : c ≠ 'Σ') (hd : c ≠ 'İ') (before after : List Char) :
    lowerAt before c after = [lowerChar c] := by
  rw [lowerAt, if_neg hs, if_neg hd]

theorem hasCase_of_lowerChar_eq_final (h : lowerChar a = 'ς') : hasCase a = true := by
  by_cases ha : lowerChar a = a
  · rw [← ha, h]
    rfl
  · exact hasCase_of_lowerChar ha

theorem exists_lowerAt_eq (hd : c ≠ 'İ') (before after : List Char) :
    ∃ d, lowerAt before c after = [d] ∧ (lowerChar c = d ∨ c = 'Σ' ∧ d = 'ς') := by
  by_cases hs : c = 'Σ'
  · subst hs
    rcases lowerAt_sigma before after with hfinal | hinner
    · exact ⟨_, hfinal, .inr ⟨rfl, rfl⟩⟩
    · exact ⟨_, hinner, .inl rfl⟩
  · exact ⟨_, lowerAt_of_ne hs hd before after, .inl rfl⟩

/-- Characters with one lower form, each in its place in a text, are the same ignoring case. -/
theorem sameIgnoringCase_of_lowerAt_eq (h : lowerAt before c after = lowerAt before' a after') :
    sameIgnoringCase c a = true := by
  have hlength := congrArg List.length h
  rw [length_lowerAt, length_lowerAt] at hlength
  by_cases hc : c = 'İ'
  · have ha : a = 'İ' := by
      by_contra ha
      rw [if_pos hc, if_neg ha] at hlength
      nomatch hlength
    exact sameIgnoringCase_of_lowerChar_eq (hc.trans ha.symm ▸ rfl)
  have ha : a ≠ 'İ' := by
    intro ha
    rw [if_neg hc, if_pos ha] at hlength
    nomatch hlength
  obtain ⟨d, hcd, hlowc⟩ := exists_lowerAt_eq hc before after
  obtain ⟨d', had, hlowa⟩ := exists_lowerAt_eq ha before' after'
  obtain rfl : d = d' := List.singleton_inj.mp (hcd.symm.trans (h.trans had))
  rcases hlowc with hlowc | ⟨rfl, rfl⟩ <;> rcases hlowa with hlowa | ⟨rfl, hfinal⟩
  · exact sameIgnoringCase_of_lowerChar_eq (hlowc.trans hlowa.symm)
  · -- The final sigma is a twin of the lower form of the capital one.
    refine sameIgnoringCase_iff.mpr (.inr ⟨rfl, ?_⟩)
    rw [hlowc, hfinal]
    decide
  · refine sameIgnoringCase_iff.mpr (.inr ⟨hasCase_of_lowerChar_eq_final hlowa, ?_⟩)
    rw [hlowa]
    decide
  · exact sameIgnoringCase_of_lowerChar_eq rfl

theorem sameIgnoringCase_of_lowerForms_eq
    (h : lowerForms before v after = lowerForms before' p after') :
    List.Forall₂ (fun c a => sameIgnoringCase c a = true) v p := by
  induction v generalizing before before' p with
  | nil =>
    cases p with
    | nil => exact .nil
    | cons a p => nomatch h
  | cons c v ih =>
    cases p with
    | nil => nomatch h
    | cons a p =>
      obtain ⟨hhead, htail⟩ := List.cons.inj h
      exact .cons (sameIgnoringCase_of_lowerAt_eq hhead) (ih htail)

/-- The second character of the lower form of the dotted capital I, which is a character of its own
as well. -/
abbrev dotAbove : Char := '\u0307'

theorem lowerChar_eq_dotAbove_iff : lowerChar c = dotAbove ↔ c = dotAbove := by
  constructor
  · intro h
    by_contra hne
    have hcase := hasCase_lowerChar (h ▸ Ne.symm hne : lowerChar c ≠ c)
    have hnone : hasCase dotAbove = false := rfl
    rw [h, hnone] at hcase
    nomatch hcase
  · rintro rfl
    rfl

theorem eq_dotAbove_iff_of_sameIgnoringCase (h : sameIgnoringCase c a = true) :
    c = dotAbove ↔ a = dotAbove := by
  have htwins : ∀ e ∈ Table.twins, e.1 ≠ dotAbove.toNat ∧ dotAbove.toNat ∉ e.2 := by decide
  rcases sameIgnoringCase_iff.mp h with h | ⟨-, h⟩
  · rw [← lowerChar_eq_dotAbove_iff, h, lowerChar_eq_dotAbove_iff]
  · obtain ⟨ns, hns, hmem⟩ := exists_of_mem_twinsOf h
    obtain ⟨hne, hnot⟩ := htwins _ hns
    refine iff_of_false (fun hc => hnot ?_) fun ha => hne ?_
    · rwa [← lowerChar_eq_dotAbove_iff.mpr hc]
    · rw [← lowerChar_eq_dotAbove_iff.mpr ha]

theorem lowerAt_dotAbove (before after : List Char) :
    lowerAt before dotAbove after = [dotAbove] := by
  rw [lowerAt_of_ne (by decide) (by decide), lowerChar_eq_dotAbove_iff.mpr rfl]

theorem lowerAt_ne_nil (before : List Char) (c : Char) (after : List Char) :
    lowerAt before c after ≠ [] := by
  rw [← List.length_pos_iff, length_lowerAt]
  split <;> decide

theorem head?_lowerAt_ne (h : c ≠ dotAbove) (before after : List Char) :
    (lowerAt before c after).head? ≠ some dotAbove := by
  by_cases hs : c = 'Σ'
  · subst hs
    rcases lowerAt_sigma before after with hform | hform <;> rw [hform] <;> decide
  by_cases hd : c = 'İ'
  · subst hd
    exact (by decide : some 'i' ≠ some dotAbove)
  · rw [lowerAt_of_ne hs hd]
    simpa [lowerChar_eq_dotAbove_iff] using h

/-- The dots above stand at the same places. -/
abbrev SameDots (v p : List Char) : Prop :=
  List.Forall₂ (fun c a => c = dotAbove ↔ a = dotAbove) v p

theorem SameDots.symm (h : SameDots v p) : SameDots p v :=
  (List.Forall₂.imp (fun _ _ => Iff.symm) h).flip

theorem SameDots.cons_lowerFrom_ne (h : SameDots v p) (before before' : List Char) :
    dotAbove :: lowerFrom before v ≠ lowerFrom before' p := by
  induction h generalizing before before' with
  | nil =>
    intro heq
    nomatch heq
  | @cons c a v p hca _ ih =>
    intro heq
    rw [lowerFrom] at heq
    by_cases ha : a = dotAbove
    · -- The dot that is left over moves on to the rest.
      have hc := hca.mpr ha
      subst ha hc
      rw [lowerFrom, lowerAt_dotAbove, lowerAt_dotAbove] at heq
      exact ih _ _ (List.cons.inj heq).2
    · refine head?_lowerAt_ne ha before' p ?_
      rw [← List.head?_append_of_ne_nil _ (lowerAt_ne_nil _ _ _), ← lowerFrom, ← heq, List.head?_cons]

/-- Two texts with their dots above at the same places have one lower form only if their characters
have, one by one: the lower form of a dotted capital I takes the place of no two characters. -/
theorem lowerForms_eq_of_lowerFrom_eq (h : SameDots v p)
    (heq : lowerFrom before v = lowerFrom before' p) :
    lowerForms before v [] = lowerForms before' p [] := by
  induction h generalizing before before' with
  | nil => rfl
  | @cons c a v p hca hrest ih =>
    rw [lowerFrom, lowerFrom] at heq
    rw [lowerForms, lowerForms, List.append_nil, List.append_nil]
    have hsame (hlength : (lowerAt before c v).length = (lowerAt before' a p).length) :
        lowerAt before c v :: lowerForms (c :: before) v [] =
          lowerAt before' a p :: lowerForms (a :: before') p [] := by
      obtain ⟨hhead, htail⟩ := List.append_inj heq hlength
      rw [hhead, ih htail]
    by_cases hc : c = 'İ' <;> by_cases ha : a = 'İ'
    · exact hsame (by rw [length_lowerAt, length_lowerAt, if_pos hc, if_pos ha])
    · have htail : dotAbove :: lowerFrom (c :: before) v = lowerFrom (a :: before') p := by
        obtain ⟨d, hd⟩ := List.length_eq_one_iff.mp ((length_lowerAt before' a p).trans (if_neg ha))
        rw [hd, hc] at heq
        rw [hc]
        exact (List.cons.inj heq).2
      exact absurd htail (SameDots.cons_lowerFrom_ne hrest _ _)
    · have htail : dotAbove :: lowerFrom (a :: before') p = lowerFrom (c :: before) v := by
        obtain ⟨d, hd⟩ := List.length_eq_one_iff.mp ((length_lowerAt before c v).trans (if_neg hc))
        rw [hd, ha] at heq
        rw [ha]
        exact (List.cons.inj heq).2.symm
      exact absurd htail (SameDots.cons_lowerFrom_ne (SameDots.symm hrest) _ _)
    · exact hsame (by rw [length_lowerAt, length_lowerAt, if_neg hc, if_neg ha])

end Place

end BuildingQuery.Text
