import BuildingQuery.Text.Case

/-! Lower and upper forms of ASCII text. Both forms tell the same texts apart. -/

namespace BuildingQuery.Text

def isAscii (s : String) : Bool := s.toList.all fun c => c.toNat < 128

theorem toNat_ofNat {n : Nat} (h : n < 0xD800) : (Char.ofNat n).toNat = n := by
  have hv : n.isValidChar := .inl h
  rw [Char.ofNat, dif_pos hv]
  rfl

theorem toNat_lowerChar {c : Char} (h : c.toNat < 128) :
    (lowerChar c).toNat = if 65 ≤ c.toNat ∧ c.toNat ≤ 90 then c.toNat + 32 else c.toNat := by
  simp only [lowerChar, h, if_true, Bool.and_eq_true, decide_eq_true_eq]
  split
  · exact toNat_ofNat (by omega)
  · rfl

theorem exists_upperChars {c : Char} (h : c.toNat < 128) : ∃ u, upperChars c = [u] ∧
    u.toNat = if 97 ≤ c.toNat ∧ c.toNat ≤ 122 then c.toNat - 32 else c.toNat := by
  simp only [upperChars, h, if_true, Bool.and_eq_true, decide_eq_true_eq]
  split
  · exact ⟨_, rfl, toNat_ofNat (by omega)⟩
  · exact ⟨_, rfl, rfl⟩

theorem lowerChar_eq_iff {c d : Char} (hc : c.toNat < 128) (hd : d.toNat < 128) :
    lowerChar c = lowerChar d ↔ upperChars c = upperChars d := by
  obtain ⟨u, hu, hun⟩ := exists_upperChars hc
  obtain ⟨v, hv, hvn⟩ := exists_upperChars hd
  rw [hu, hv, List.cons.injEq, ← Char.toNat_inj, ← Char.toNat_inj, toNat_lowerChar hc,
    toNat_lowerChar hd, hun, hvn]
  simp only [and_true]
  split <;> split <;> split <;> split <;> omega

theorem lowerFrom_ascii {s : List Char} (hs : ∀ c ∈ s, c.toNat < 128) (before : List Char) :
    lowerFrom before s = s.map lowerChar := by
  induction s generalizing before with
  | nil => rfl
  | cons c s ih =>
    obtain ⟨hc, hs⟩ := List.forall_mem_cons.mp hs
    have hsigma : c ≠ 'Σ' := by
      rintro rfl
      exact absurd hc (by decide)
    have hdotted : c ≠ 'İ' := by
      rintro rfl
      exact absurd hc (by decide)
    rw [lowerFrom, ih hs, lowerAt, if_neg hsigma, if_neg hdotted]
    rfl

theorem map_lowerChar_eq_iff {s t : List Char} (hs : ∀ c ∈ s, c.toNat < 128)
    (ht : ∀ c ∈ t, c.toNat < 128) :
    s.map lowerChar = t.map lowerChar ↔ s.flatMap upperChars = t.flatMap upperChars := by
  induction s generalizing t with
  | nil =>
    cases t with
    | nil => simp
    | cons d t =>
      obtain ⟨u, hu, -⟩ := exists_upperChars (List.forall_mem_cons.mp ht).1
      simp [hu]
  | cons c s ih =>
    obtain ⟨hc, hs⟩ := List.forall_mem_cons.mp hs
    obtain ⟨u, hu, -⟩ := exists_upperChars hc
    cases t with
    | nil => simp [hu]
    | cons d t =>
      obtain ⟨hd, ht⟩ := List.forall_mem_cons.mp ht
      obtain ⟨v, hv, -⟩ := exists_upperChars hd
      have hcd := lowerChar_eq_iff hc hd
      rw [hu, hv, List.cons.injEq] at hcd
      simp only [List.map_cons, List.flatMap_cons, hu, hv, List.singleton_append, List.cons.injEq,
        ih hs ht, hcd, and_true]

theorem lower_eq_iff_upper_eq {s t : String} (hs : isAscii s = true) (ht : isAscii t = true) :
    lower s = lower t ↔ upper s = upper t := by
  have hs : ∀ c ∈ s.toList, c.toNat < 128 := by simpa [isAscii] using hs
  have ht : ∀ c ∈ t.toList, c.toNat < 128 := by simpa [isAscii] using ht
  rw [lower, lower, upper, upper, String.ofList_inj, String.ofList_inj, lowerChars, lowerChars,
    lowerFrom_ascii hs, lowerFrom_ascii ht, map_lowerChar_eq_iff hs ht]

end BuildingQuery.Text
