import BuildingQuery.Proofs.Number.Nearest
import BuildingQuery.Proofs.Number.Range

/-! The exact value of a float: its sign, and a magnitude with the bits below the sign. Only the
canonical float is not a number, and beside it only the two infinities are not finite. -/

namespace BuildingQuery.Number

/-- The bits below the sign. -/
def magnitudeBits (x : Float) : ℕ := x.toBits.toNat % signBit

def isNegative (x : Float) : Bool := signBit ≤ x.toBits.toNat

theorem ofBits_magnitudeBits (x : Float) :
    Float.ofBits (UInt64.ofNat (magnitudeBits x + if isNegative x then signBit else 0)) = x := by
  have hlt : x.toBits.toNat < 2 ^ 64 := x.toBits.toNat_lt
  have hs : signBit = 2 ^ 63 := rfl
  have hbits : (magnitudeBits x + if isNegative x then signBit else 0) = x.toBits.toNat := by
    simp only [magnitudeBits, isNegative, decide_eq_true_eq, hs]
    split_ifs <;> omega
  rw [hbits, UInt64.ofNat_toNat, Float.ofBits_toBits]

theorem isFinite_iff (x : Float) : x.isFinite = true ↔ magnitudeBits x < infinityBits := by
  have hx := isFinite_ofBits x.toBits
  have hlt : x.toBits.toNat < 2 ^ 64 := x.toBits.toNat_lt
  have hs : signBit = 2 ^ 63 := rfl
  have hi : infinityBits = 2047 * 2 ^ 52 := rfl
  rw [Float.ofBits_toBits] at hx
  rw [hx, exponentField, magnitudeBits, hs, hi]
  omega

theorem binary?_eq_none_iff (x : Float) : binary? x = none ↔ x.isFinite = false := by
  rw [← Bool.not_eq_true, isFinite_iff, binary?, Binary.ofBits?]
  simp only [magnitudeBits]
  split_ifs <;> simp_all

theorem Binary.num_div_den (b : Binary) : (b.num : ℚ) / b.den = b.mantissa * 2 ^ b.exponent := by
  have h := shifted_div b.mantissa 1 (-b.exponent)
  rw [neg_neg] at h
  rw [num, den, h, Nat.cast_one, div_one, zpow_neg, div_inv_eq_mul]

theorem Binary.den_ne_zero (b : Binary) : b.den ≠ 0 := by
  rw [den, Nat.shiftLeft_eq]
  positivity

theorem Binary.num_eq_zero_iff (b : Binary) : b.num = 0 ↔ b.mantissa = 0 := by
  rw [num, Nat.shiftLeft_eq]
  simp

theorem negative_of_binary? {x : Float} {b : Binary} (h : binary? x = some b) :
    b.negative = isNegative x := by
  rw [binary?, Binary.ofBits?] at h
  split at h
  case isTrue => exact (congrArg Binary.negative (Option.some.inj h)).symm
  case isFalse => nomatch h

theorem isMagnitude_subnormal {bits : ℕ} (hb : bits ≠ 0) (h : bits / leadingBit = 0) :
    IsMagnitude bits bits ((1 : ℕ) - 1075) := by
  have hl : leadingBit = 2 ^ 52 := rfl
  have hi : infinityBits = 2047 * 2 ^ 52 := rfl
  rw [hl] at h
  constructor
  case eq =>
    rw [hl]
    omega
  case finite =>
    rw [hi]
    omega
  all_goals omega

theorem isMagnitude_normal {bits : ℕ} (hb : bits < infinityBits) (h : bits / leadingBit ≠ 0) :
    IsMagnitude bits (bits % leadingBit + leadingBit) ((bits / leadingBit : ℕ) - 1075) := by
  have hl : leadingBit = 2 ^ 52 := rfl
  rw [hl] at h ⊢
  constructor
  case eq =>
    rw [hl]
    omega
  case finite => exact hb
  all_goals omega

/-- A finite float is zero, or its bits are those of a magnitude. -/
theorem isMagnitude_of_binary? {x : Float} {b : Binary} (h : binary? x = some b) :
    b.mantissa = 0 ∧ magnitudeBits x = 0 ∨
      IsMagnitude (magnitudeBits x) b.mantissa b.exponent := by
  rw [binary?, Binary.ofBits?, ← magnitudeBits] at h
  split_ifs at h with hfin hsub <;> obtain rfl := Option.some.inj h
  · by_cases hb : magnitudeBits x = 0
    · exact .inl ⟨hb, hb⟩
    · exact .inr (isMagnitude_subnormal hb hsub)
  · exact .inr (isMagnitude_normal hfin hsub)

open Float.Model Float.Model.UnpackedFloat in
theorem unpackMantissa_toNat (b : BitVec Format.binary64.numBits) :
    (@unpackMantissa .binary64 b).toNat = b.toNat % 2 ^ 52 := by
  simp [unpackMantissa]

open Float.Model Float.Model.UnpackedFloat in
/-- Beside the finite floats there are the infinities and the float that is not a number. -/
theorem eq_of_not_isFinite {x : Float} (h : x.isFinite = false) :
    x = notANumber ∨ x = infinity ∨ x = -infinity := by
  have hlt : x.toBits.toNat < 2 ^ 64 := x.toBits.toNat_lt
  have hs : signBit = 2 ^ 63 := rfl
  have hi : infinityBits = 2047 * 2 ^ 52 := rfl
  have hbits : infinityBits ≤ magnitudeBits x := by
    rw [← not_lt, ← isFinite_iff, h]
    exact Bool.false_ne_true
  by_cases hm : @unpackMantissa .binary64 x.toBits.toBitVec = 0
  · have hzero : x.toBits.toNat % 2 ^ 52 = 0 := by
      rw [← UInt64.toNat_toBitVec, ← unpackMantissa_toNat, hm]
      rfl
    have heq : magnitudeBits x = infinityBits := by
      rw [hi, magnitudeBits, hs] at hbits ⊢
      omega
    have hx := ofBits_magnitudeBits x
    rw [heq] at hx
    cases hneg : isNegative x <;> rw [hneg] at hx
    · exact .inr (.inl hx.symm)
    · exact .inr (.inr hx.symm)
  · have hexp : @unpackExponent .binary64 x.toBits.toBitVec = -1#11 := by
      rw [unpackExponent_eq_iff, exponentField, UInt64.toNat_toBitVec]
      rw [hi, magnitudeBits, hs] at hbits
      omega
    have hnan := x.toModel.valid.eq_packedNaN hexp hm
    refine .inl (Float.toBits_inj.mp (UInt64.toBitVec_inj.mp ?_))
    exact hnan

theorem isNaN_of_isFinite {x : Float} (hx : x.isFinite = true) : x.isNaN = false := by
  rw [Float.isNaN_eq_decide_eq_nan, decide_eq_false_iff_not]
  rintro rfl
  exact absurd hx (by decide +kernel)

end BuildingQuery.Number
