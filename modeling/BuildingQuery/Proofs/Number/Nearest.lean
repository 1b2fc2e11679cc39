import BuildingQuery.Number.Binary
import Mathlib

/-! The float nearest to a quotient, as a function of the value of the quotient. A quotient that
lies nearer to a float than half of its last place has that float as the nearest. -/

namespace BuildingQuery.Number

/-- A value rounded to a whole number, a half going to the even neighbour. -/
def nearestEven (x : ℚ) : ℕ :=
  let low := ⌊x⌋₊
  if x - low < 1 / 2 then low
  else if 1 / 2 < x - low then low + 1
  else low + low % 2

theorem roundDiv_eq_nearestEven (num : ℕ) {den : ℕ} (hd : 0 < den) :
    roundDiv num den = nearestEven ((num : ℚ) / den) := by
  have hd' : (0 : ℚ) < den := by exact_mod_cast hd
  have hrest : (num : ℚ) / den - (num / den : ℕ) = (num % den : ℕ) / den := by
    have hnum : ((den * (num / den) + num % den : ℕ) : ℚ) = num := by
      rw [Nat.div_add_mod]
    push_cast at hnum
    field_simp
    linarith
  have hlt : (num : ℚ) / den - (num / den : ℕ) < 1 / 2 ↔ 2 * (num % den) < den := by
    rw [hrest, div_lt_div_iff₀ hd' two_pos]
    norm_cast
    omega
  have hgt : 1 / 2 < (num : ℚ) / den - (num / den : ℕ) ↔ den < 2 * (num % den) := by
    rw [hrest, div_lt_div_iff₀ two_pos hd']
    norm_cast
    omega
  simp only [roundDiv, nearestEven, Nat.floor_div_eq_div, hlt, hgt]

theorem nearestEven_eq {x : ℚ} {r : ℕ} (hx : 0 ≤ x) (hlow : (r : ℚ) - 1 / 2 < x)
    (hhigh : x < r + 1 / 2) : nearestEven x = r := by
  rcases le_or_gt (r : ℚ) x with hr | hr
  · have hfloor : ⌊x⌋₊ = r := (Nat.floor_eq_iff hx).mpr ⟨hr, by linarith⟩
    have hlt : x - r < 1 / 2 := by linarith
    simp only [nearestEven, hfloor, hlt, if_true]
  · have hpos : 0 < r := by exact_mod_cast hx.trans_lt hr
    have hcast : ((r - 1 : ℕ) : ℚ) = r - 1 := Nat.cast_pred hpos
    have hfloor : ⌊x⌋₊ = r - 1 :=
      (Nat.floor_eq_iff hx).mpr ⟨by rw [hcast]; linarith, by rw [hcast]; linarith⟩
    have hlt : ¬ x - (r - 1 : ℕ) < 1 / 2 := by
      rw [hcast]
      linarith
    have hgt : 1 / 2 < x - (r - 1 : ℕ) := by
      rw [hcast]
      linarith
    simp only [nearestEven, hfloor, hlt, hgt, if_false, if_true]
    omega

theorem le_nearestEven {x : ℚ} {r : ℕ} (h : (r : ℚ) ≤ x) : r ≤ nearestEven x := by
  have hfloor : r ≤ ⌊x⌋₊ := Nat.le_floor h
  simp only [nearestEven]
  split_ifs <;> omega

theorem two_zpow_add (q : ℤ) (k : ℕ) : (2 : ℚ) ^ (q + k) = 2 ^ k * 2 ^ q := by
  rw [zpow_add₀ two_ne_zero, zpow_natCast, mul_comm]

/-- The exponent of the last place of the floats around a value. -/
structure Fits (q : ℤ) (x : ℚ) : Prop where
  least : -1074 ≤ q
  lt : x < 2 ^ (q + 53)
  le : q = -1074 ∨ (2 : ℚ) ^ (q + 52) ≤ x

theorem Fits.eq {p q : ℤ} {x : ℚ} (hp : Fits p x) (hq : Fits q x) : p = q := by
  have hle : ∀ {p q : ℤ}, Fits p x → Fits q x → q ≤ p := by
    intro p q hp hq
    rcases hq.le with hq' | hq'
    · exact hq' ▸ hp.least
    · have hpow := hq'.trans_lt hp.lt
      rw [zpow_lt_zpow_iff_right₀ one_lt_two] at hpow
      omega
  exact le_antisymm (hle hq hp) (hle hp hq)

theorem zpow_eq_div {a : ℚ} (ha : a ≠ 0) (e : ℤ) : a ^ e = a ^ e.toNat / a ^ (-e).toNat := by
  rw [← zpow_natCast, ← zpow_natCast, ← zpow_sub₀ ha]
  congr 1
  omega

theorem shifted_div (num den : ℕ) (q : ℤ) :
    ((num <<< (-q).toNat : ℕ) : ℚ) / (den <<< q.toNat : ℕ) = (num : ℚ) / den / 2 ^ q := by
  rw [Nat.shiftLeft_eq, Nat.shiftLeft_eq, zpow_eq_div two_ne_zero]
  push_cast
  field_simp

theorem div_lt_pow_log2 (num : ℕ) {den : ℕ} (hd : den ≠ 0) :
    (num : ℚ) / den < 2 ^ ((num.log2 : ℤ) - den.log2 + 1) := by
  have hd' : (0 : ℚ) < den := by exact_mod_cast Nat.pos_of_ne_zero hd
  have hnum : (num : ℚ) < 2 ^ ((num.log2 : ℤ) + 1) := by
    exact_mod_cast Nat.lt_log2_self (n := num)
  have hden : (2 : ℚ) ^ (den.log2 : ℤ) ≤ den := by
    exact_mod_cast Nat.log2_self_le hd
  rw [div_lt_iff₀ hd']
  calc (num : ℚ) < 2 ^ ((num.log2 : ℤ) + 1) := hnum
    _ = 2 ^ ((num.log2 : ℤ) - den.log2 + 1) * 2 ^ (den.log2 : ℤ) := by
        rw [← zpow_add₀ two_ne_zero]
        congr 1
        omega
    _ ≤ 2 ^ ((num.log2 : ℤ) - den.log2 + 1) * den := by gcongr

theorem pow_log2_lt_div {num den : ℕ} (hn : num ≠ 0) (hd : den ≠ 0) :
    (2 : ℚ) ^ ((num.log2 : ℤ) - den.log2 - 1) < (num : ℚ) / den := by
  have hd' : (0 : ℚ) < den := by exact_mod_cast Nat.pos_of_ne_zero hd
  have hnum : (2 : ℚ) ^ (num.log2 : ℤ) ≤ num := by
    exact_mod_cast Nat.log2_self_le hn
  have hden : (den : ℚ) < 2 ^ ((den.log2 : ℤ) + 1) := by
    exact_mod_cast Nat.lt_log2_self (n := den)
  rw [lt_div_iff₀ hd']
  calc (2 : ℚ) ^ ((num.log2 : ℤ) - den.log2 - 1) * den
      < 2 ^ ((num.log2 : ℤ) - den.log2 - 1) * 2 ^ ((den.log2 : ℤ) + 1) := by gcongr
    _ = 2 ^ (num.log2 : ℤ) := by
        rw [← zpow_add₀ two_ne_zero]
        congr 1
        omega
    _ ≤ num := hnum

/-- The exponent that the search for the nearest float starts with. -/
def firstExponent (num den : ℕ) : ℤ := max ((num.log2 : ℤ) - den.log2 - 53) (-1074)

theorem fits_firstExponent {num den : ℕ} (hn : num ≠ 0) (hd : den ≠ 0) :
    Fits (if (2 : ℚ) ^ (firstExponent num den + 53) ≤ (num : ℚ) / den
      then firstExponent num den + 1 else firstExponent num den) ((num : ℚ) / den) := by
  have hlt := div_lt_pow_log2 num hd
  have hle := pow_log2_lt_div hn hd
  have hpow {a b : ℤ} (h : a ≤ b) : (2 : ℚ) ^ a ≤ 2 ^ b := zpow_le_zpow_right₀ one_le_two h
  split
  case isTrue h =>
    refine ⟨by simp only [firstExponent]; omega, hlt.trans_le (hpow ?_), .inr ?_⟩
    · simp only [firstExponent]
      omega
    · refine (hpow ?_).trans h
      omega
  case isFalse h =>
    refine ⟨by simp only [firstExponent]; omega, lt_of_not_ge h, ?_⟩
    rcases le_or_gt ((num.log2 : ℤ) - den.log2 - 53) (-1074) with hsmall | hlarge
    · exact .inl (max_eq_right hsmall)
    · refine .inr ((hpow ?_).trans hle.le)
      simp only [firstExponent]
      omega

theorem nearestBits_eq {num den : ℕ} (hn : num ≠ 0) (hd : den ≠ 0) {q : ℤ}
    (hq : Fits q ((num : ℚ) / den)) :
    nearestBits num den =
      min ((q + 1074).toNat * leadingBit + nearestEven ((num : ℚ) / den / 2 ^ q))
        infinityBits := by
  have hpos (p : ℤ) : 0 < den <<< p.toNat := by
    rw [Nat.shiftLeft_eq]
    positivity
  have hround (p : ℤ) : roundDiv (num <<< (-p).toNat) (den <<< p.toNat) =
      nearestEven ((num : ℚ) / den / 2 ^ p) := by
    rw [roundDiv_eq_nearestEven _ (hpos p), shifted_div]
  have hcarry (p : ℤ) : (den <<< p.toNat) <<< 53 ≤ num <<< (-p).toNat ↔
      (2 : ℚ) ^ (p + 53) ≤ (num : ℚ) / den := by
    have hpos' : (0 : ℚ) < (den <<< p.toNat : ℕ) := by exact_mod_cast hpos p
    have hp : (0 : ℚ) < 2 ^ p := by positivity
    rw [Nat.shiftLeft_eq (den <<< p.toNat), zpow_add₀ two_ne_zero, ← le_div_iff₀' hp,
      ← shifted_div, le_div_iff₀ hpos', Nat.mul_comm]
    norm_cast
  have hfirst := fits_firstExponent hn hd
  rw [nearestBits]
  simp only [hcarry, hround]
  rw [← hfirst.eq hq]
  rfl

/-- The nearest float depends on the value of a quotient only. -/
theorem nearestBits_congr {num den num' den' : ℕ} (hn : num ≠ 0) (hd : den ≠ 0) (hn' : num' ≠ 0)
    (hd' : den' ≠ 0) (h : (num : ℚ) / den = num' / den') :
    nearestBits num den = nearestBits num' den' := by
  have hfit := fits_firstExponent hn hd
  rw [nearestBits_eq hn hd hfit, nearestBits_eq hn' hd' (h ▸ hfit), h]

/-- The magnitude of a finite float that is not zero: a mantissa and the exponent of its last
place. -/
structure IsMagnitude (bits m : ℕ) (q : ℤ) : Prop where
  pos : 0 < m
  lt : m < 2 ^ 53
  least : -1074 ≤ q
  /-- Only the least exponent has mantissas without a leading bit. -/
  le : q = -1074 ∨ 2 ^ 52 ≤ m
  eq : bits = (q + 1074).toNat * leadingBit + m
  finite : bits < infinityBits

/-- Below a power of two the places are twice as fine. -/
theorem nearestBits_of_near_below {bits m : ℕ} {q : ℤ} (hb : IsMagnitude bits m q) {num den : ℕ}
    (hn : num ≠ 0) (hd : den ≠ 0) (hm : m = 2 ^ 52) (hq : q ≠ -1074)
    (hlt : (num : ℚ) / den < 2 ^ 52 * 2 ^ q) (hlow : (m - 1 / 4) * 2 ^ q < (num : ℚ) / den) :
    nearestBits num den = bits := by
  have hleast := hb.least
  have hp : (0 : ℚ) < 2 ^ (q - 1) := by positivity
  have hx : (0 : ℚ) ≤ num / den := by positivity
  have hdouble : (2 : ℚ) ^ q = 2 * 2 ^ (q - 1) := by
    rw [← zpow_one_add₀ two_ne_zero]
    congr 1
    omega
  have hcast : (m : ℚ) = 2 ^ 52 := by exact_mod_cast hm
  rw [hcast, hdouble] at hlow
  rw [hdouble] at hlt
  have hfit : Fits (q - 1) ((num : ℚ) / den) := by
    have hpow53 := two_zpow_add (q - 1) 53
    have hpow52 := two_zpow_add (q - 1) 52
    push_cast at hpow53 hpow52
    refine ⟨by omega, ?_, .inr ?_⟩
    · rw [hpow53]
      linarith
    · rw [hpow52]
      linarith
  have hround : nearestEven ((num : ℚ) / den / 2 ^ (q - 1)) = 2 ^ 53 := by
    refine nearestEven_eq (by positivity) ((lt_div_iff₀ hp).mpr ?_) ((div_lt_iff₀ hp).mpr ?_)
    · push_cast
      linarith
    · push_cast
      linarith
  have hbits : (q - 1 + 1074).toNat * leadingBit + 2 ^ 53 = bits := by
    have hl : leadingBit = 2 ^ 52 := rfl
    rw [hb.eq, hm, hl]
    omega
  rw [nearestBits_eq hn hd hfit, hround, hbits, min_eq_left hb.finite.le]

/-- A float is the nearest to every value that is nearer to it than half of its last place, and
than a quarter where the places below are finer. -/
theorem nearestBits_of_near {bits m : ℕ} {q : ℤ} (hb : IsMagnitude bits m q) {num den : ℕ}
    (hn : num ≠ 0) (hd : den ≠ 0) (hhigh : (num : ℚ) / den < (m + 1 / 2) * 2 ^ q)
    (hlow : (m - 1 / 2) * 2 ^ q < (num : ℚ) / den)
    (hlow' : m = 2 ^ 52 → (m - 1 / 4) * 2 ^ q < (num : ℚ) / den) :
    nearestBits num den = bits := by
  have hp : (0 : ℚ) < 2 ^ q := by positivity
  have hx : (0 : ℚ) ≤ num / den := by positivity
  by_cases hfit : q = -1074 ∨ (2 : ℚ) ^ (q + 52) ≤ num / den
  · have hlt : (num : ℚ) / den < 2 ^ (q + 53) := by
      have hmax : (m : ℚ) + 1 ≤ 2 ^ 53 := by exact_mod_cast hb.lt
      rw [zpow_add₀ two_ne_zero]
      refine hhigh.trans ?_
      rw [mul_comm]
      gcongr
      norm_num at hmax ⊢
      linarith
    have hround : nearestEven ((num : ℚ) / den / 2 ^ q) = m :=
      nearestEven_eq (by positivity) ((lt_div_iff₀ hp).mpr hlow) ((div_lt_iff₀ hp).mpr hhigh)
    rw [nearestBits_eq hn hd ⟨hb.least, hlt, hfit⟩, hround, ← hb.eq, min_eq_left hb.finite.le]
  · -- Only the least mantissa is so close to a value below its own power of two.
    obtain ⟨hq, hlt⟩ := not_or.mp hfit
    have hlt : (num : ℚ) / den < 2 ^ 52 * 2 ^ q := two_zpow_add q 52 ▸ lt_of_not_ge hlt
    have hm : m = 2 ^ 52 := by
      refine le_antisymm ?_ (hb.le.resolve_left hq)
      by_contra hgt
      have hm : (2 : ℚ) ^ 52 + 1 ≤ m := by exact_mod_cast not_le.mp hgt
      have hle : (2 : ℚ) ^ 52 * 2 ^ q ≤ (m - 1 / 2) * 2 ^ q := by
        gcongr
        linarith
      exact absurd (hle.trans_lt hlow) (not_lt.mpr hlt.le)
    exact nearestBits_of_near_below hb hn hd hm hq hlt (hlow' hm)

theorem nearestBits_of_large {num den : ℕ} (hn : num ≠ 0) (hd : den ≠ 0)
    (h : (2 : ℚ) ^ (1024 : ℤ) ≤ (num : ℚ) / den) : nearestBits num den = infinityBits := by
  have hfit := fits_firstExponent hn hd
  generalize (if (2 : ℚ) ^ (firstExponent num den + 53) ≤ (num : ℚ) / den
      then firstExponent num den + 1 else firstExponent num den) = q at hfit
  have hq : 1024 < q + 53 := by
    have hpow := h.trans_lt hfit.lt
    rwa [zpow_lt_zpow_iff_right₀ one_lt_two] at hpow
  have hround : 2 ^ 52 ≤ nearestEven ((num : ℚ) / den / 2 ^ q) := by
    refine le_nearestEven ((le_div_iff₀ (by positivity)).mpr ?_)
    have hle := hfit.le.resolve_left (by omega)
    have hpow := two_zpow_add q 52
    have hcast : ((2 ^ 52 : ℕ) : ℚ) = 2 ^ 52 := by norm_cast
    rw [hcast, ← hpow]
    exact hle
  have hl : leadingBit = 2 ^ 52 := rfl
  have hi : infinityBits = 2047 * 2 ^ 52 := rfl
  rw [nearestBits_eq hn hd hfit, hl, hi]
  omega

theorem nearestBits_of_small {num den : ℕ} (hn : num ≠ 0) (hd : den ≠ 0)
    (h : (num : ℚ) / den < 2 ^ (-1075 : ℤ)) : nearestBits num den = 0 := by
  have hpow : (2 : ℚ) ^ (-1075 : ℤ) = 1 / 2 * 2 ^ (-1074 : ℤ) := by
    have htwo : (1 / 2 : ℚ) = 2 ^ (-1 : ℤ) := by norm_num
    rw [htwo, ← zpow_add₀ two_ne_zero]
    rfl
  have hfit : Fits (-1074) ((num : ℚ) / den) :=
    ⟨le_rfl, h.trans_le (zpow_le_zpow_right₀ one_le_two (by decide)), .inl rfl⟩
  have hround : nearestEven ((num : ℚ) / den / 2 ^ (-1074 : ℤ)) = 0 := by
    refine nearestEven_eq (by positivity) ?_ ?_
    · refine lt_of_lt_of_le ?_ (by positivity : (0 : ℚ) ≤ (num : ℚ) / den / 2 ^ (-1074 : ℤ))
      norm_num
    · rw [div_lt_iff₀ (by positivity), Nat.cast_zero, zero_add, ← hpow]
      exact h
  rw [nearestBits_eq hn hd hfit, hround]
  rfl

end BuildingQuery.Number
