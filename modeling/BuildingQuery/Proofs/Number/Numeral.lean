import BuildingQuery.Proofs.Number.Shortest

/-! Decimal numbers as text, and the floats they are read as. -/

namespace BuildingQuery.Number

open Text

theorem ofRatio_of_nearestBits {num den bits : ℕ} (hn : num ≠ 0) (h : nearestBits num den = bits)
    (negative : Bool) : ofRatio negative num den =
      Float.ofBits (UInt64.ofNat (bits + if negative then signBit else 0)) := by
  rw [ofRatio, if_neg hn, h]

theorem two_zpow_le_ten_zpow (k : ℕ) : (2 : ℚ) ^ (3 * (k : ℤ)) ≤ 10 ^ (k : ℤ) := by
  rw [zpow_mul, zpow_natCast, zpow_natCast]
  gcongr
  norm_num

theorem nearestBits_of_ten_zpow_le {num den k : ℕ} (hn : num ≠ 0) (hd : den ≠ 0) (hk : 400 ≤ k)
    (h : (10 : ℚ) ^ (k : ℤ) ≤ (num : ℚ) / den) : nearestBits num den = infinityBits := by
  refine nearestBits_of_large hn hd (le_trans ?_ h)
  exact (zpow_le_zpow_right₀ one_le_two (by omega)).trans (two_zpow_le_ten_zpow k)

theorem nearestBits_of_lt_ten_zpow {num den k : ℕ} (hn : num ≠ 0) (hd : den ≠ 0) (hk : 400 ≤ k)
    (h : (num : ℚ) / den < 10 ^ (-(k : ℤ))) : nearestBits num den = 0 := by
  refine nearestBits_of_small hn hd (h.trans_le ?_)
  calc (10 : ℚ) ^ (-(k : ℤ)) = (10 ^ (k : ℤ))⁻¹ := zpow_neg _ _
    _ ≤ (2 ^ (3 * (k : ℤ)))⁻¹ := inv_anti₀ (by positivity) (two_zpow_le_ten_zpow k)
    _ = 2 ^ (-(3 * (k : ℤ))) := (zpow_neg _ _).symm
    _ ≤ 2 ^ (-1075 : ℤ) := zpow_le_zpow_right₀ one_le_two (by omega)

/-- Digits with the power of ten of the last of them are read as the nearest float, also where the
powers are not worked out. -/
theorem ofDecimal_eq_ofRatio {ds : List ℕ} (hds : ∀ d ∈ ds, d < 10) {e : ℤ} {num den : ℕ}
    (hn : num ≠ 0) (hd : den ≠ 0) (h : (ofDigits ds : ℚ) * 10 ^ e = (num : ℚ) / den)
    (negative : Bool) : ofDecimal negative ds e = ofRatio negative num den := by
  have hpos : (0 : ℚ) < (num : ℚ) / den := by positivity
  have hten : (0 : ℚ) < 10 ^ e := by positivity
  have hpow (k : ℕ) : (10 : ℚ) ^ ((k : ℤ) + e) = 10 ^ k * 10 ^ e := by
    rw [zpow_add₀ (by norm_num), zpow_natCast]
  have hlead := List.head?_dropWhile_not (p := (· == 0)) (l := ds)
  have hlt := ofDigits_lt fun d hd => hds d (List.dropWhile_subset (· == 0) hd)
  rw [← ofDigits_dropWhile] at h
  rw [ofDecimal]
  generalize ds.dropWhile (· == 0) = ds' at h hlead hlt ⊢
  have hne : ds' ≠ [] := by
    rintro rfl
    rw [ofDigits, List.foldl_nil, Nat.cast_zero, zero_mul] at h
    exact hpos.ne h
  have hempty : ds'.isEmpty = false := List.isEmpty_eq_false_iff.mpr hne
  simp only [hempty, Bool.false_or, decide_eq_true_eq]
  split
  case isTrue hsmall =>
    obtain ⟨k, hk⟩ : ∃ k : ℕ, -(k : ℤ) = ds'.length + e := ⟨(-(ds'.length + e)).toNat, by omega⟩
    have hvalue : (num : ℚ) / den < 10 ^ (-(k : ℤ)) := by
      rw [hk, hpow, ← h]
      gcongr
      exact_mod_cast hlt
    rw [ofRatio_of_nearestBits hn (nearestBits_of_lt_ten_zpow hn hd (by omega) hvalue)]
    rfl
  split
  case isTrue hlarge =>
    obtain ⟨d, ds', rfl⟩ := List.exists_cons_of_ne_nil hne
    have hlen : ((d :: ds').length : ℤ) = ds'.length + 1 := by simp
    obtain ⟨k, hk⟩ : ∃ k : ℕ, (k : ℤ) = ds'.length + e := ⟨(ds'.length + e).toNat, by omega⟩
    have hvalue : (10 : ℚ) ^ (k : ℤ) ≤ num / den := by
      have hfirst : d ≠ 0 := by simpa using hlead
      rw [hk, hpow, ← h]
      gcongr
      exact_mod_cast le_ofDigits hfirst ds'
    rw [ofRatio_of_nearestBits hn (nearestBits_of_ten_zpow_le hn hd (by omega) hvalue)]
    cases negative <;> rfl
  case isFalse =>
    have hvalue := Decimal.num_div_den ⟨ofDigits ds', e⟩
    have hdigits : ofDigits ds' ≠ 0 := by
      intro hz
      rw [hz, Nat.cast_zero, zero_mul] at h
      exact hpos.ne h
    have hnum : Decimal.num ⟨ofDigits ds', e⟩ ≠ 0 := Decimal.num_ne_zero hdigits
    have hbits := nearestBits_congr hnum (Decimal.den_ne_zero _) hn hd (hvalue.trans h)
    rw [ofRatio_of_nearestBits hn hbits.symm]
    exact ofRatio_of_nearestBits hnum rfl negative

section Reader

variable {w f t : List Char}

theorem decimal?_point (hw : w ≠ []) (hwd : ∀ c ∈ w, isAsciiDigit c = true)
    (hfd : ∀ c ∈ f, isAsciiDigit c = true) (ht : EndsDigits t) (negative : Bool) :
    decimal? negative (w ++ '.' :: (f ++ t)) =
      (exponent? t).map fun e => ofDecimal negative ((w ++ f).map digitOf) (e - f.length) := by
  have hwhole : (w.map digitOf).isEmpty = false := by simpa using hw
  have hpoint : EndsDigits ('.' :: (f ++ t)) := endsRun_cons rfl
  simp only [decimal?, splitDigits_append hwd hpoint, splitDigits_append hfd ht, hwhole,
    Bool.false_and, Bool.false_eq_true, if_false, List.map_append, List.length_map]
  cases exponent? t <;> rfl

theorem decimal?_exponent (hw : w ≠ []) (hwd : ∀ c ∈ w, isAsciiDigit c = true) (negative : Bool) :
    decimal? negative (w ++ 'e' :: t) =
      (exponent? ('e' :: t)).map fun e => ofDecimal negative (w.map digitOf) e := by
  have hwhole : (w.map digitOf).isEmpty = false := by simpa using hw
  have hexp : EndsDigits ('e' :: t) := endsRun_cons rfl
  have hread : decimal? negative (w ++ 'e' :: t) =
      if (w.map digitOf).isEmpty && true then none
      else (exponent? ('e' :: t)).bind fun e =>
        some (ofDecimal negative (w.map digitOf ++ []) (e - (0 : ℕ))) := by
    rw [decimal?, splitDigits_append hwd hexp]
    rfl
  rw [hread, hwhole, List.append_nil, Bool.false_and, if_neg Bool.false_ne_true]
  cases exponent? ('e' :: t) with
  | none => rfl
  | some e => simp

theorem exponent?_digits (power : ℤ) (k : ℕ) :
    exponent? ('e' :: (if power < 0 then '-' else '+') :: (zeros k ++ digits power.natAbs)) =
      some power := by
  have hd : ∀ c ∈ zeros k ++ digits power.natAbs, isAsciiDigit c = true := by
    intro c hc
    rcases List.mem_append.mp hc with hc | hc
    · exact isAsciiDigit_of_mem_zeros hc
    · exact isAsciiDigit_of_mem_digits hc
  have hsplit := splitDigits_append hd endsRun_nil
  rw [List.append_nil, List.map_append, map_digitOf_zeros] at hsplit
  have hvalue : ofDigits (List.replicate k 0 ++ (digits power.natAbs).map digitOf) =
      power.natAbs := by
    rw [ofDigits_zeros_append, ofDigits_digits]
  have hne : List.replicate k 0 ++ (digits power.natAbs).map digitOf ≠ [] := by
    simp [digits_ne_nil]
  generalize List.replicate k 0 ++ (digits power.natAbs).map digitOf = ds at hsplit hvalue hne
  obtain ⟨d, ds, rfl⟩ := List.exists_cons_of_ne_nil hne
  have hmark : ('e' == 'e' || 'e' == 'E') = true := rfl
  by_cases hp : power < 0
  · rw [if_pos hp, exponent?, if_pos hmark]
    simp only [splitSign, hsplit, hvalue, if_true, Option.some.injEq]
    omega
  · rw [if_neg hp, exponent?, if_pos hmark]
    simp only [splitSign, hsplit, hvalue, Bool.false_eq_true, if_false, Option.some.injEq]
    omega

end Reader

end BuildingQuery.Number
