import BuildingQuery.Proofs.Number.Exact

/-! The order of floats. Those that are numbers have ranks: by their sign and whether they are
infinite, then by the exponent, then by the mantissa. So they are ordered totally, up to the sign of
zero. A finite float minus itself is zero. -/

namespace BuildingQuery.Number

open Float.Model Float.Model.UnpackedFloat

/-- The place of a number among all others; the two zeros have the same. -/
def rankOf : UnpackedFloat → ℤ ×ₗ ℤ ×ₗ ℤ
  | .infinity .negative => toLex (-2, toLex (0, 0))
  | .finite .negative m e _ => toLex (-1, toLex (-e, -m))
  | .notANumber | .zero _ => toLex (0, toLex (0, 0))
  | .finite .positive m e _ => toLex (1, toLex (e, m))
  | .infinity .positive => toLex (2, toLex (0, 0))

def rank (x : Float) : ℤ ×ₗ ℤ ×ₗ ℤ := rankOf x.toModel.unpack

theorem compare_neg (a b : ℤ) : compare (-a) (-b) = compare b a := by
  simp only [compare, compareOfLessAndEq, neg_lt_neg_iff, neg_inj, eq_comm]

theorem compare_cast (m n : ℕ) : compare (m : ℤ) (n : ℤ) = compare m n := by
  simp only [compare, compareOfLessAndEq, Nat.cast_lt, Nat.cast_inj]

theorem compare_toLex {α β : Type} [Ord α] [Ord β] (p q : α × β) :
    compare (toLex p) (toLex q) = (compare p.1 q.1).then (compare p.2 q.2) := by
  rw [Prod.Lex.compare_def]
  rfl

theorem compare_eq_compare_rankOf {a b : UnpackedFloat} (ha : a.isNaN = false)
    (hb : b.isNaN = false) :
    UnpackedFloat.compare a b = some (compare (rankOf a) (rankOf b)) := by
  rcases a with (_ | _) | _ | _ | ⟨_ | _, m, e, hm⟩ <;>
    rcases b with (_ | _) | _ | _ | ⟨_ | _, n, f, hn⟩ <;>
      simp only [UnpackedFloat.isNaN, Bool.true_eq_false] at ha hb <;>
      simp only [rankOf, compare_toLex]
  -- Exponents and mantissas count only between numbers of the same sign.
  case finite.negative.finite.negative =>
    simp only [compare_neg, compare_cast]
    simp [UnpackedFloat.compare, Ordering.swap_then, Int.compare_swap, Nat.compare_swap]
  case finite.positive.finite.positive =>
    simp only [compare_cast]
    simp [UnpackedFloat.compare]
  all_goals rfl

section Order

variable {x y : Float}

theorem lt_iff_compare :
    x < y ↔ UnpackedFloat.compare x.toModel.unpack y.toModel.unpack = some .lt := by
  rw [← beq_iff_eq]
  change decide _ = true ↔ _
  rw [decide_eq_true_iff]
  rfl

theorem beq_iff_compare :
    (x == y) = true ↔ UnpackedFloat.compare x.toModel.unpack y.toModel.unpack = some .eq :=
  beq_iff_eq (a := UnpackedFloat.compare x.toModel.unpack y.toModel.unpack)

theorem lt_iff_rank_lt (hx : x.isNaN = false) (hy : y.isNaN = false) : x < y ↔ rank x < rank y := by
  rw [lt_iff_compare, compare_eq_compare_rankOf hx hy, rank, rank, ← compare_lt_iff_lt]
  simp

theorem beq_iff_rank_eq (hx : x.isNaN = false) (hy : y.isNaN = false) :
    (x == y) = true ↔ rank x = rank y := by
  rw [beq_iff_compare, compare_eq_compare_rankOf hx hy, rank, rank, Option.some_inj,
    compare_eq_iff_eq]

theorem le_iff_rank_le (hx : x.isNaN = false) (hy : y.isNaN = false) : x ≤ y ↔ rank x ≤ rank y := by
  have hle : x ≤ y ↔
      ((UnpackedFloat.compare x.toModel.unpack y.toModel.unpack).any (·.isLE)) = true := by
    change decide _ = true ↔ _
    rw [decide_eq_true_iff]
    rfl
  rw [hle, compare_eq_compare_rankOf hx hy, rank, rank, ← compare_le_iff_le]
  simp [Ordering.isLE_iff_ne_gt]

end Order

theorem sub_self_of_isFinite {a : UnpackedFloat} (h : a.isFinite = true) :
    UnpackedFloat.sub .binary64 a a = .zero .positive := by
  rcases a with s | _ | s | ⟨s, m, e, hm⟩
  · nomatch h
  · nomatch h
  · cases s <;> rfl
  · simp [UnpackedFloat.sub, UnpackedFloat.normalize]

theorem abs_sub_self {x : Float} (h : x.isFinite = true) : (x - x).abs = 0 := by
  have hmodel : x.toModel - x.toModel = Float.Model.pack (.zero .positive) :=
    congrArg Float.Model.pack (sub_self_of_isFinite h)
  have hsub : x - x = ⟨Float.Model.pack (.zero .positive)⟩ := congrArg Float.ofModel hmodel
  rw [hsub]
  rfl

end BuildingQuery.Number
