import BuildingQuery.Proofs.Comparison.Faults
import BuildingQuery.Proofs.Number.Distance

/-! Equality and its opposite. Both are decided by the distance of two numbers, so that neither holds
where there is no distance: against a value that is not a number, and between the same infinity
twice. Everywhere else one of them holds if and only if the other does not. -/

namespace BuildingQuery

/-- What two comparisons come to of which one is meant to be the negation of the other: to opposite
answers, except in a gap, where neither holds. A fault is one for both. -/
inductive Opposed (gap : Bool) : Except Fault Bool → Except Fault Bool → Prop where
  | fault (f : Fault) : Opposed gap (.error f) (.error f)
  | neither (h : gap = true) : Opposed gap (.ok false) (.ok false)
  | opposite (h : gap = false) (b : Bool) : Opposed gap (.ok b) (.ok !b)

namespace Comparison

/-- Whether a number has no distance from another one. What is not a number itself is compared with
nothing. -/
def noDistance : Value.Numeric → Value.Numeric → Bool
  | .int _, .int _ => false
  | .int _, .float y => y.isNaN
  | .float _, .int _ => false
  | .float x, .float y => !x.isNaN && (y.isNaN || x.isInf && x == y)

/-- Whether two values are numbers without a distance. -/
def undecided (value other : Value) : Bool :=
  isNumber value && isNumber other &&
    value.numeric?.any fun a => other.numeric?.any fun b => noDistance a b

variable {a b d : Value.Numeric}

theorem noDistance_of_isNaN (ha : isNaN a = true) : noDistance a b = false := by
  cases a with
  | int n => nomatch ha
  | float x =>
    rw [isNaN] at ha
    cases b with
    | int n => rfl
    | float y => rw [noDistance, ha, Bool.not_true, Bool.false_and]

theorem isNaN_distance (ha : isNaN a = false) (h : distance a b = .ok d) :
    isNaN d = noDistance a b := by
  cases a <;> cases b <;> simp only [distance] at h
  case int.int =>
    cases h
    rfl
  case float.float x y =>
    cases h
    rw [isNaN] at ha
    rw [isNaN, noDistance, Number.isNaN_abs_sub, ha, Bool.false_or, Bool.not_false, Bool.true_and]
  case int.float n y =>
    split at h
    case h_2 => cases h
    case h_1 x hn =>
      -- The float nearest to an integer is finite.
      have hx := Number.isFinite_of_ofInt? hn
      cases h
      rw [isNaN, noDistance, Number.isNaN_abs_sub, Number.isNaN_of_isFinite hx,
        Number.isInf_of_isFinite hx, Bool.false_and, Bool.or_false, Bool.false_or]
  case float.int x n =>
    split at h
    case h_2 => cases h
    case h_1 y hn =>
      have hy := Number.isFinite_of_ofInt? hn
      have hsame : (x.isInf && x == y) = false := by
        rw [← Bool.not_eq_true, Bool.and_eq_true]
        rintro ⟨hinf, hbeq⟩
        exact absurd (Number.isInf_of_isInf_of_beq hinf hbeq)
          (ne_true_of_eq_false (Number.isInf_of_isFinite hy))
      cases h
      rw [isNaN] at ha
      rw [isNaN, noDistance, Number.isNaN_abs_sub, ha, Number.isNaN_of_isFinite hy, hsame,
        Bool.or_false, Bool.or_false]

theorem compare_tolerance_isSome (d : Value.Numeric) :
    (d.compare (.float tolerance)).isSome = !isNaN d := by
  have htolerance : tolerance.isNaN = false := by decide +kernel
  cases d with
  | int n => rw [Value.Numeric.compare, Number.compareIntFloat_isSome, htolerance, isNaN]
  | float x => rw [Value.Numeric.compare, Number.compareFloats_isSome htolerance, isNaN]

theorem opposed_numbers (a b : Value.Numeric) (upper : Value) :
    Opposed (noDistance a b) (equals.holdsOfNumbers a b upper)
      (notEquals.holdsOfNumbers a b upper) := by
  cases ha : isNaN a with
  | true =>
    simp only [holdsOfNumbers, ha, if_true]
    exact .opposite (noDistance_of_isNaN ha) false
  | false =>
    simp only [holdsOfNumbers, ha, Bool.false_eq_true, if_false]
    cases hd : distance a b with
    | error f => exact .fault f
    | ok d =>
      have hgap := compare_tolerance_isSome d
      rw [isNaN_distance ha hd] at hgap
      simp only [bind, Except.bind]
      cases hc : d.compare (.float tolerance) with
      | none =>
        rw [hc, Option.isSome_none, eq_comm, Bool.not_eq_false'] at hgap
        exact .neither hgap
      | some o =>
        rw [hc, Option.isSome_some, eq_comm, Bool.not_eq_true'] at hgap
        cases o with
        | lt => exact .opposite hgap true
        | eq | gt => exact .opposite hgap false

theorem undecided_of_comparesTexts {value other : Value} (h : comparesTexts value other = true) :
    undecided value other = false := by
  have hnumbers : (isNumber value && isNumber other) = false := by
    cases value <;> simp_all [comparesTexts, isNumber]
  rw [undecided, hnumbers, Bool.false_and]

/-- Of any two values one equals the other, or does not equal it, or they are undecided. -/
theorem opposed_values (value other upper : Value) :
    Opposed (undecided value other) (equals.holds value other upper)
      (notEquals.holds value other upper) := by
  cases ht : comparesTexts value other with
  | true =>
    rw [holds_texts ht (by decide) (by decide), holds_texts ht (by decide) (by decide)]
    exact .opposite (undecided_of_comparesTexts ht) _
  | false =>
    by_cases hnull : value = .null
    · subst hnull
      exact .opposite rfl false
    by_cases hbool : ∃ b, value = .bool b
    · obtain ⟨b, rfl⟩ := hbool
      exact .opposite rfl _
    have hnumbers : isNumber value = true ∧ isNumber other = true := by
      cases value <;> simp_all [comparesTexts]
    obtain ⟨hv, ho⟩ := hnumbers
    obtain ⟨a, ha⟩ := exists_numeric hv
    obtain ⟨b, hb⟩ := exists_numeric ho
    rw [holds_numbers hv ho ha hb (by decide) (by decide),
      holds_numbers hv ho ha hb (by decide) (by decide)]
    have hgap : undecided value other = noDistance a b := by
      simp only [undecided, hv, ho, ha, hb, Option.any_some, Bool.true_and]
    exact hgap ▸ opposed_numbers a b upper

end Comparison

open Comparison

theorem PropertyTest.opposed (t : PropertyTest) (e : Element) :
    Opposed ((e.property? t.set t.name).any fun p => undecided p.value t.value)
      (PropertyTest.holds { t with comparison := .equals } e)
      (PropertyTest.holds { t with comparison := .notEquals } e) := by
  simp only [PropertyTest.holds]
  cases e.property? t.set t.name with
  | none => exact .opposite rfl false
  | some p => exact opposed_values p.value t.value _

theorem QuantityTest.opposed (t : QuantityTest) (e : Element) :
    Opposed ((e.quantity? t.set t.name).any fun x => noDistance (.float x) (.float t.value))
      (QuantityTest.holds { t with comparison := .equals } e)
      (QuantityTest.holds { t with comparison := .notEquals } e) := by
  simp only [QuantityTest.holds]
  cases e.quantity? t.set t.name with
  | none => exact .opposite rfl false
  | some x => exact opposed_numbers (.float x) (.float t.value) (floatValue t.upper)

/-- Of two values, and of an element under a condition on a property or a quantity, equality and its
opposite answer oppositely or fail alike, whether or not the element has what is asked for. Only
where two numbers have no distance neither holds. -/
theorem equals_opposed_notEquals (value other upper : Value) (t : PropertyTest) (q : QuantityTest)
    (ix : Option Index) (e : Element) :
    Opposed (undecided value other) (Comparison.equals.holds value other upper)
      (Comparison.notEquals.holds value other upper) ∧
    Opposed ((e.property? t.set t.name).any fun p => undecided p.value t.value)
      (Condition.holds ix e (.property { t with comparison := .equals }))
      (Condition.holds ix e (.property { t with comparison := .notEquals })) ∧
    Opposed ((e.quantity? q.set q.name).any fun x => noDistance (.float x) (.float q.value))
      (Condition.holds ix e (.quantity { q with comparison := .equals }))
      (Condition.holds ix e (.quantity { q with comparison := .notEquals })) := by
  simp only [Condition.holds]
  exact ⟨opposed_values value other upper, t.opposed e, q.opposed e⟩

/-- A number neither equals a value that is not a number nor differs from it, and infinity neither
equals itself nor differs from itself. -/
theorem neither_equals_nor_notEquals :
    Comparison.equals.holds (.float 1.5) (.float Number.notANumber) .null = .ok false ∧
    Comparison.notEquals.holds (.float 1.5) (.float Number.notANumber) .null = .ok false ∧
    Comparison.equals.holds (.float Number.infinity) (.float Number.infinity) .null = .ok false ∧
    Comparison.notEquals.holds (.float Number.infinity) (.float Number.infinity) .null =
      .ok false := by
  refine ⟨?_, ?_, ?_, ?_⟩ <;> rfl

end BuildingQuery
