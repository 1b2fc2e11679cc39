import BuildingQuery.Number.Binary
import Mathlib

/-! The range of floats: which bit patterns are finite, and which integers are too large to have a
nearest float. -/

namespace BuildingQuery.Number

open Float.Model

section Finite

open UnpackedFloat

def exponentField (bits : Nat) : Nat := bits / 2 ^ 52 % 2 ^ 11

theorem unpackExponent_toNat (b : BitVec Format.binary64.numBits) :
    (@unpackExponent .binary64 b).toNat = exponentField b.toNat := by
  simp [unpackExponent, exponentField, Nat.shiftRight_eq_div_pow]

theorem unpackExponent_eq_iff (b : BitVec Format.binary64.numBits) :
    @unpackExponent .binary64 b = -1#11 ↔ exponentField b.toNat = 2047 := by
  rw [← unpackExponent_toNat, ← BitVec.toNat_inj]
  rfl

theorem isFinite_unpack (b : BitVec Format.binary64.numBits) :
    (UnpackedFloat.unpack .binary64 b).isFinite = true ↔ exponentField b.toNat ≠ 2047 := by
  rw [ne_eq, ← unpackExponent_eq_iff]
  simp only [UnpackedFloat.unpack]
  split
  case isTrue h => split <;> simp only [UnpackedFloat.isFinite, h] <;> simp
  case isFalse h =>
    split
    · split <;> exact ⟨fun _ => h, fun _ => rfl⟩
    · exact ⟨fun _ => h, fun _ => rfl⟩

theorem exponentField_pack_finite {s : Sign} {m : Nat} {e : Int} (hm : 0 < m)
    (he : (e + 1075).toNat < 2047) :
    exponentField (UnpackedFloat.pack .binary64 (.finite s m e hm)).toNat ≠ 2047 := by
  have hbias : (Format.binary64.exponentBias : Int) = 1023 := rfl
  rw [ne_eq, ← unpackExponent_eq_iff]
  simp only [UnpackedFloat.pack, hbias]
  split
  case isTrue h =>
    push_cast at h
    omega
  case isFalse h =>
    split
    · have hones : (-1#11 : BitVec 11).toNat = 2047 := rfl
      rw [unpackExponent_packComponents, ← BitVec.toNat_inj, BitVec.toNat_ofNat, hones]
      push_cast at h ⊢
      omega
    · rw [unpackExponent_packComponents]
      decide

theorem isFinite_ofBits (a : UInt64) :
    (Float.ofBits a).isFinite = true ↔ exponentField a.toNat ≠ 2047 := by
  have hp : ∀ u, (Float.Model.pack u).isFinite = true ↔
      exponentField (UnpackedFloat.pack .binary64 u).toNat ≠ 2047 := fun u => isFinite_unpack _
  have ha : (Float.ofBits a).isFinite =
      (Float.Model.pack (UnpackedFloat.unpack .binary64 a.toBitVec)).isFinite := rfl
  have hlt : exponentField a.toNat < 2048 := Nat.mod_lt _ (by decide)
  have hfield : (@unpackExponent .binary64 a.toBitVec).toNat = exponentField a.toNat :=
    unpackExponent_toNat _
  have hbias : (Format.binary64.exponentBias : Int) = 1023 := rfl
  rw [ha, hp]
  simp only [UnpackedFloat.unpack]
  split
  case isTrue h =>
    have he : exponentField a.toNat = 2047 := (unpackExponent_eq_iff _).mp h
    split
    all_goals
      rw [ne_eq, ← unpackExponent_eq_iff]
      simp [he, UnpackedFloat.pack, packedInfinity, packedNaN]
  case isFalse h =>
    have he : exponentField a.toNat ≠ 2047 := fun he => h ((unpackExponent_eq_iff _).mpr he)
    split
    case isTrue h0 =>
      have hz : exponentField a.toNat = 0 := by
        rw [← hfield, h0]
        rfl
      split
      · rw [ne_eq, ← unpackExponent_eq_iff]
        simp [he, UnpackedFloat.pack, packedZero]
      · refine ⟨fun _ => he, fun _ => exponentField_pack_finite _ ?_⟩
        rw [hfield, hbias, hz]
        decide
    case isFalse =>
      refine ⟨fun _ => he, fun _ => exponentField_pack_finite _ ?_⟩
      rw [hfield, hbias]
      push_cast
      omega

end Finite

theorem exponentField_signed {m s : Nat} (hm : m ≤ infinityBits) (hs : s = 0 ∨ s = signBit) :
    exponentField (UInt64.ofNat (m + s)).toNat ≠ 2047 ↔ m < infinityBits := by
  have hi : infinityBits = 9218868437227405312 := rfl
  have hb : signBit = 9223372036854775808 := rfl
  have hn : (UInt64.ofNat (m + s)).toNat = m + s :=
    UInt64.toNat_ofNat_of_lt (by rcases hs with rfl | rfl <;> simp only [UInt64.size] <;> omega)
  rw [hn, exponentField]
  rcases hs with rfl | rfl <;> omega

theorem nearestBits_le (num den : Nat) : nearestBits num den ≤ infinityBits :=
  Nat.min_le_right _ _

theorem isFinite_ofRatio (negative : Bool) (num den : Nat) :
    (ofRatio negative num den).isFinite = true ↔ num = 0 ∨ nearestBits num den < infinityBits := by
  rw [ofRatio, isFinite_ofBits]
  have hs : (if negative = true then signBit else 0) = 0 ∨
      (if negative = true then signBit else 0) = signBit := by
    cases negative <;> simp
  by_cases hn : num = 0
  · simp only [hn, if_true, true_or, iff_true]
    exact (exponentField_signed (Nat.zero_le _) hs).mpr (by decide)
  · simp only [hn, if_false, false_or]
    exact exponentField_signed (nearestBits_le num den) hs

theorem roundDiv_bounds (num den : Nat) :
    num / den ≤ roundDiv num den ∧ roundDiv num den ≤ num / den + 1 := by
  simp only [roundDiv]
  split
  · omega
  · split <;> omega

/-- Rounding stays below an even number while the quotient is more than a half below it. -/
theorem roundDiv_lt_iff {num half k : Nat} (hhalf : 0 < half) (hk : 0 < k)
    (hq : num / (2 * half) < 2 * k) :
    roundDiv num (2 * half) < 2 * k ↔ num < 2 * half * (2 * k) - half := by
  have hnum : 2 * half * (num / (2 * half)) + num % (2 * half) = num := Nat.div_add_mod _ _
  have hrest : num % (2 * half) < 2 * half := Nat.mod_lt _ (by omega)
  have htop : 2 * half * (2 * k - 1) + 2 * half = 2 * half * (2 * k) := by
    rw [← Nat.mul_succ]
    congr 1
    omega
  rcases Nat.lt_or_ge (num / (2 * half)) (2 * k - 1) with hlt | hge
  · have hle : 2 * half * (num / (2 * half) + 1) ≤ 2 * half * (2 * k - 1) :=
      Nat.mul_le_mul_left _ hlt
    rw [Nat.mul_succ] at hle
    have hr := (roundDiv_bounds num (2 * half)).2
    omega
  · have hlast : num / (2 * half) = 2 * k - 1 := by omega
    rw [hlast] at hnum
    simp only [roundDiv, hlast]
    split
    · omega
    · split <;> omega

theorem pow_log2_scaled {num : Nat} (h : num ≠ 0) (k : Nat) :
    2 ^ (num.log2 - k) * 2 ^ k ≤ num * 2 ^ (k - num.log2) := by
  have hlow : 2 ^ num.log2 ≤ num := Nat.log2_self_le h
  have hpow : 2 ^ (num.log2 - k) * 2 ^ k = 2 ^ num.log2 * 2 ^ (k - num.log2) := by
    rw [← Nat.pow_add, ← Nat.pow_add]
    congr 1
    omega
  rw [hpow]
  exact Nat.mul_le_mul_right _ hlow

theorem lt_pow_log2_scaled (num k : Nat) :
    num * 2 ^ (k - num.log2) < 2 ^ (num.log2 - k) * 2 ^ (k + 1) := by
  have hhigh : num < 2 ^ (num.log2 + 1) := Nat.lt_log2_self
  have hpow : 2 ^ (num.log2 - k) * 2 ^ (k + 1) = 2 ^ (num.log2 + 1) * 2 ^ (k - num.log2) := by
    rw [← Nat.pow_add, ← Nat.pow_add]
    congr 1
    omega
  rw [hpow]
  exact Nat.mul_lt_mul_of_pos_right hhigh (Nat.two_pow_pos _)

/-- An integer is scaled to a mantissa of 53 bits before it is rounded. -/
theorem nearestBits_one {num : Nat} (h : num ≠ 0) :
    nearestBits num 1 = min ((num.log2 + 1022) * leadingBit +
      roundDiv (num * 2 ^ (52 - num.log2)) (2 ^ (num.log2 - 52))) infinityBits := by
  have hden : Nat.log2 1 = 0 := by decide
  have hq : max ((num.log2 : Int) - (0 : Nat) - 53) (-1074) = (num.log2 : Int) - 53 := by omega
  have hup : (-((num.log2 : Int) - 53)).toNat = 53 - num.log2 := by omega
  have hdown : ((num.log2 : Int) - 53).toNat = num.log2 - 53 := by omega
  have hup' : (-((num.log2 : Int) - 53 + 1)).toNat = 52 - num.log2 := by omega
  have hdown' : ((num.log2 : Int) - 53 + 1).toNat = num.log2 - 52 := by omega
  have hexp : ((num.log2 : Int) - 53 + 1 + 1074).toNat = num.log2 + 1022 := by omega
  have hd := pow_log2_scaled h 53
  simp only [nearestBits, hden, hq, hup, hdown, Nat.shiftLeft_eq, Nat.one_mul, hd, if_true, hup',
    hdown', hexp]

/-- The magnitude of the first integers that are too large for floats: half the last place of the
largest float below the power of two that follows it. -/
def floatLimit : Nat := (2 ^ 54 - 1) * 2 ^ 970

theorem bits_lt_iff {l r : Nat} (hlow : 2 ^ 52 ≤ r) (hhigh : r ≤ 2 ^ 53) :
    min ((l + 1022) * leadingBit + r) infinityBits < infinityBits ↔
      l < 1023 ∨ l = 1023 ∧ r < 2 ^ 53 := by
  have hi : infinityBits = 9218868437227405312 := rfl
  have hl : leadingBit = 4503599627370496 := rfl
  rw [hi, hl]
  omega

/-- The limit with its exponent as a variable, so that the power is never worked out. -/
theorem nearestBits_one_lt_iff {num k : Nat} (h : num ≠ 0) (hk : 53 + k = 1023) :
    nearestBits num 1 < infinityBits ↔ num < (2 ^ 54 - 1) * 2 ^ k := by
  have hlow : 2 ^ num.log2 ≤ num := Nat.log2_self_le h
  have hhigh : num < 2 ^ (num.log2 + 1) := Nat.lt_log2_self
  have hdiv : 2 ^ 52 ≤ num * 2 ^ (52 - num.log2) / 2 ^ (num.log2 - 52) := by
    rw [Nat.le_div_iff_mul_le (Nat.two_pow_pos _), Nat.mul_comm]
    exact pow_log2_scaled h 52
  have hdiv' : num * 2 ^ (52 - num.log2) / 2 ^ (num.log2 - 52) < 2 ^ 53 := by
    rw [Nat.div_lt_iff_lt_mul (Nat.two_pow_pos _), Nat.mul_comm (2 ^ 53)]
    exact lt_pow_log2_scaled num 52
  obtain ⟨hround, hround'⟩ :=
    roundDiv_bounds (num * 2 ^ (52 - num.log2)) (2 ^ (num.log2 - 52))
  rw [nearestBits_one h, bits_lt_iff (Nat.le_trans hdiv hround) (Nat.le_trans hround' hdiv')]
  rcases Nat.lt_trichotomy num.log2 1023 with hlt | heq | hgt
  · have hlarge : 2 ^ (53 + k) ≤ (2 ^ 54 - 1) * 2 ^ k := by
      rw [Nat.pow_add]
      exact Nat.mul_le_mul_right _ (by omega)
    have hpow : 2 ^ (num.log2 + 1) ≤ 2 ^ (53 + k) := Nat.pow_le_pow_right Nat.two_pos (hk ▸ hlt)
    have hnum := Nat.lt_of_lt_of_le hhigh (Nat.le_trans hpow hlarge)
    simp only [hlt, hnum, true_or]
  · -- Only here it depends on the rounding.
    have hone : num * 2 ^ (52 - num.log2) = num := by
      have hz : 52 - num.log2 = 0 := by omega
      rw [hz, Nat.pow_zero, Nat.mul_one]
    have htwo : 2 ^ (num.log2 - 52) = 2 * 2 ^ k := by
      have hs : num.log2 - 52 = k + 1 := by omega
      rw [hs, Nat.pow_succ, Nat.mul_comm]
    have hlim : 2 * 2 ^ k * (2 * 2 ^ 52) - 2 ^ k = (2 ^ 54 - 1) * 2 ^ k := by
      generalize 2 ^ k = half
      omega
    rw [hone, htwo] at hdiv' ⊢
    have hr := roundDiv_lt_iff (Nat.two_pow_pos k) (Nat.two_pow_pos 52) hdiv'
    have hhalf : 2 * 2 ^ 52 = 2 ^ 53 := by omega
    rw [hlim, hhalf] at hr
    simp only [heq, Nat.lt_irrefl, false_or, true_and, hr]
  · have hsmall : (2 ^ 54 - 1) * 2 ^ k ≤ 2 ^ (54 + k) := by
      rw [Nat.pow_add]
      exact Nat.mul_le_mul_right _ (by omega)
    have hpow : 2 ^ (54 + k) ≤ 2 ^ num.log2 := Nat.pow_le_pow_right Nat.two_pos (by omega)
    have hnum : ¬ num < (2 ^ 54 - 1) * 2 ^ k :=
      Nat.not_lt.mpr (Nat.le_trans hsmall (Nat.le_trans hpow hlow))
    have hnlt : ¬ num.log2 < 1023 := Nat.not_lt.mpr (Nat.le_of_lt hgt)
    simp only [hnlt, Nat.ne_of_gt hgt, hnum, false_and, or_false]

/-- Just the integers below the limit have a float. -/
theorem ofInt?_eq_none_iff (n : Int) : ofInt? n = none ↔ floatLimit ≤ n.natAbs := by
  have hx := isFinite_ofRatio (n < 0) n.natAbs 1
  obtain ⟨k, hk⟩ : ∃ k, k = 970 := ⟨_, rfl⟩
  have hlimit : floatLimit = (2 ^ 54 - 1) * 2 ^ k := by
    rw [floatLimit, hk]
  rw [ofInt?, hlimit]
  by_cases hfin : (ofRatio (n < 0) n.natAbs 1).isFinite = true
  · have hlt : n.natAbs < (2 ^ 54 - 1) * 2 ^ k := by
      by_cases hn : n.natAbs = 0
      · exact hn ▸ Nat.mul_pos (by omega) (Nat.two_pow_pos k)
      · have hbits := (hx.mp hfin).resolve_left hn
        exact (nearestBits_one_lt_iff hn (by omega)).mp hbits
    simp only [hfin, if_true, reduceCtorEq, false_iff]
    exact Nat.not_le.mpr hlt
  · have hnot := mt hx.mpr hfin
    have hn : n.natAbs ≠ 0 := fun hn => hnot (.inl hn)
    have hle : ¬ n.natAbs < (2 ^ 54 - 1) * 2 ^ k :=
      fun hlt => hnot (.inr ((nearestBits_one_lt_iff hn (by omega)).mpr hlt))
    simp only [hfin, Bool.false_eq_true, if_false, true_iff]
    exact Nat.not_lt.mp hle

end BuildingQuery.Number
