import BuildingQuery.Number.Order
import BuildingQuery.Proofs.Number.Order

/-! When two floats have a distance. Rounding never leaves the numbers, so that a difference is no
number only if one of the two is none or both are the same infinity. Any number compares with any
other. -/

namespace BuildingQuery.Number

open Float.Model Float.Model.UnpackedFloat

section NotANumber

theorem isNaN_unpack_iff (b : BitVec Format.binary64.numBits) :
    (UnpackedFloat.unpack .binary64 b).isNaN = true ↔
      @unpackExponent .binary64 b = -1#11 ∧ @unpackMantissa .binary64 b ≠ 0#52 := by
  simp only [UnpackedFloat.unpack]
  split
  case isTrue h => split <;> simp_all [UnpackedFloat.isNaN]
  case isFalse h =>
    split
    · split <;> simp_all [UnpackedFloat.isNaN]
    · simp_all [UnpackedFloat.isNaN]

theorem isNaN_unpack_pack (a : UnpackedFloat) : (Float.Model.pack a).unpack.isNaN = a.isNaN := by
  rw [Bool.eq_iff_iff]
  refine (isNaN_unpack_iff (UnpackedFloat.pack .binary64 a)).trans ?_
  rcases a with s | _ | s | ⟨s, m, e, hm⟩
  case infinity => simp [UnpackedFloat.pack, packedInfinity, UnpackedFloat.isNaN]
  case notANumber => simp [UnpackedFloat.pack, packedNaN, UnpackedFloat.isNaN]
  case zero => simp [UnpackedFloat.pack, packedZero, UnpackedFloat.isNaN]
  case finite =>
    have hbias : (Format.binary64.exponentBias : ℤ) = 1023 := rfl
    refine iff_of_false ?_ Bool.false_ne_true
    rintro ⟨hexponent, hmantissa⟩
    by_cases he : (e + 1075).toNat < 2047
    · exact exponentField_pack_finite hm he ((unpackExponent_eq_iff _).mp hexponent)
    · -- What is too large is packed as an infinity.
      have hlarge : 2 ^ Format.binary64.exponentBits ≤
          (e + Format.binary64.exponentBias + Format.binary64.mantissaBitsWithoutImplicit).toNat + 1 := by
        rw [hbias]
        push_cast
        omega
      simp only [UnpackedFloat.pack, if_pos hlarge, packedInfinity, unpackMantissa_packComponents] at hmantissa
      exact hmantissa rfl

theorem isNaN_round (f : Format) (s : Sign) (m : ℕ) (e : ℤ) :
    (UnpackedFloat.round f s m e).isNaN = false := by
  simp only [UnpackedFloat.round, roundWithAccuracy]
  split <;> rfl

theorem isNaN_normalize (f : Format) (m e : ℤ) (s : Sign) :
    (UnpackedFloat.normalize f m e s).isNaN = false := by
  simp only [UnpackedFloat.normalize]
  split
  · exact isNaN_round ..
  · rfl
  · exact isNaN_round ..

theorem isNaN_sub_iff (f : Format) (a b : UnpackedFloat) :
    (UnpackedFloat.sub f a b).isNaN = true ↔ a.isNaN = true ∨ b.isNaN = true ∨
      ∃ s, a = .infinity s ∧ b = .infinity s := by
  rcases a with s | _ | s | ⟨s, m, e, hm⟩ <;> rcases b with t | _ | t | ⟨t, n, g, hn⟩
  case infinity.infinity =>
    cases s <;> cases t
    case negative.negative | positive.positive => exact iff_of_true rfl (.inr (.inr ⟨_, rfl, rfl⟩))
    all_goals exact iff_of_false Bool.false_ne_true (by simp [UnpackedFloat.isNaN])
  case zero.zero =>
    simp only [UnpackedFloat.sub]
    split <;> simp [UnpackedFloat.isNaN]
  case finite.finite =>
    refine iff_of_false ?_ (by simp [UnpackedFloat.isNaN])
    exact (Bool.not_eq_true _).mpr (isNaN_normalize ..)
  all_goals simp [UnpackedFloat.sub, UnpackedFloat.isNaN]

theorem isNaN_abs (a : UnpackedFloat) : a.abs.isNaN = a.isNaN := by
  cases a <;> rfl

theorem isInf_and_beq_iff {a b : UnpackedFloat} :
    a.isInf = true ∧ a.beq b = true ↔ ∃ s, a = .infinity s ∧ b = .infinity s := by
  rcases a with s | _ | s | ⟨s, m, e, hm⟩
  case infinity =>
    rcases b with t | _ | t | ⟨t, n, g, hn⟩
    case infinity =>
      have hsame : (UnpackedFloat.infinity s).beq (.infinity t) = true ↔ s = t := by
        cases s <;> cases t
        case negative.negative | positive.positive => exact iff_of_true rfl rfl
        all_goals exact iff_of_false Bool.false_ne_true nofun
      simp [UnpackedFloat.isInf, hsame, eq_comm]
    all_goals cases s <;> exact iff_of_false (fun h => Bool.false_ne_true h.2) (by simp)
  all_goals simp [UnpackedFloat.isInf]

end NotANumber

variable {x y z : Float}

theorem isInf_of_isFinite (h : x.isFinite = true) : x.isInf = false := by
  have hunpacked (a : UnpackedFloat) (ha : a.isFinite = true) : a.isInf = false := by
    cases a with
    | infinity => nomatch ha
    | notANumber | zero | finite => rfl
  exact hunpacked _ h

theorem isInf_of_isInf_of_beq (hx : x.isInf = true) (h : (x == y) = true) : y.isInf = true := by
  obtain ⟨s, -, hs⟩ := isInf_and_beq_iff.mp ⟨hx, h⟩
  exact congrArg UnpackedFloat.isInf hs

theorem isFinite_of_ofInt? {n : ℤ} (h : ofInt? n = some x) : x.isFinite = true := by
  rw [ofInt?] at h
  split at h
  case isTrue hfinite => rwa [← Option.some.inj h]
  case isFalse => cases h

/-- Two floats have a distance unless one is not a number or both are the same infinity. -/
theorem isNaN_abs_sub (x y : Float) :
    (x - y).abs.isNaN = (x.isNaN || (y.isNaN || x.isInf && x == y)) := by
  have hdistance : (x - y).abs.isNaN =
      (UnpackedFloat.sub .binary64 x.toModel.unpack y.toModel.unpack).isNaN := by
    have habs (a : Float.Model) : (Float.Model.pack a.unpack.abs).unpack.isNaN = a.unpack.isNaN := by
      rw [isNaN_unpack_pack, isNaN_abs]
    exact (habs _).trans (isNaN_unpack_pack _)
  rw [hdistance, Bool.eq_iff_iff, isNaN_sub_iff, ← isInf_and_beq_iff, Bool.or_eq_true,
    Bool.or_eq_true, Bool.and_eq_true]
  rfl

theorem compareFloats_eq (hx : x.isNaN = false) (hy : y.isNaN = false) :
    compareFloats x y = some (compare (rank x) (rank y)) := by
  have hlt := lt_iff_rank_lt hx hy
  have hgt := lt_iff_rank_lt hy hx
  rw [compareFloats]
  rcases lt_trichotomy (rank x) (rank y) with h | h | h
  · rw [if_pos (hlt.mpr h), compare_lt_iff_lt.mpr h]
  · rw [if_neg (fun hxy => (hlt.mp hxy).ne h), if_neg (fun hyx => (hgt.mp hyx).ne' h),
      if_pos ((beq_iff_rank_eq hx hy).mpr h), compare_eq_iff_eq.mpr h]
  · rw [if_neg (fun hxy => (hlt.mp hxy).asymm h), if_pos (hgt.mpr h), compare_gt_iff_gt.mpr h]

theorem compareFloats_of_isNaN (hx : x.isNaN = true) (y : Float) : compareFloats x y = none := by
  have hnan : x.toModel.unpack = .notANumber := by
    change x.toModel.unpack.isNaN = true at hx
    cases h : x.toModel.unpack with
    | notANumber => rfl
    | infinity | zero | finite =>
      rw [h] at hx
      nomatch hx
  have hright (a : UnpackedFloat) : UnpackedFloat.compare a .notANumber = none := by
    rcases a with (_ | _) | _ | _ | ⟨_ | _, _, _, _⟩ <;> rfl
  have hleft (a : UnpackedFloat) : UnpackedFloat.compare .notANumber a = none := rfl
  simp only [compareFloats, lt_iff_compare, beq_iff_compare, hnan, hright, hleft, reduceCtorEq,
    if_false]

theorem compareFloats_isSome (hy : y.isNaN = false) (x : Float) :
    (compareFloats x y).isSome = !x.isNaN := by
  cases hx : x.isNaN with
  | true =>
    rw [compareFloats_of_isNaN hx]
    rfl
  | false =>
    rw [compareFloats_eq hx hy]
    rfl

theorem compareIntFloat_isSome (n : ℤ) (x : Float) : (compareIntFloat n x).isSome = !x.isNaN := by
  rw [compareIntFloat]
  cases x.isNaN with
  | true => rfl
  | false =>
    simp only [Bool.false_eq_true, if_false]
    split <;> rfl

end BuildingQuery.Number
