import BuildingQuery.Condition.Evaluate
import BuildingQuery.Proofs.Number.Range

/-! The comparisons that end in a fault: equality of an integer beyond the range of floats with a
float, and the search for an expression that is refused for another reason than its grammar. -/

namespace BuildingQuery

namespace Regex

/-- The fault that a defect of an expression leads to; a malformed expression is found nowhere and
leads to none. -/
def Defect.fault? : Defect → Option Fault
  | .malformed => none
  | .hugeCount => some .hugeCount
  | .scriptConflict => some .scriptConflict

def Refuses (expression : String) (f : Fault) : Prop :=
  ∃ d, Regex.read expression = .error d ∧ d.fault? = some f

end Regex

theorem expressionFound_error_iff {expression s : String} {f : Fault} :
    expressionFound expression s = .error f ↔ Regex.Refuses expression f := by
  cases h : Regex.read expression with
  | ok e => simp [expressionFound, Regex.Refuses, h, pure, Except.pure]
  | error d =>
    cases d <;>
      simp [expressionFound, Regex.Refuses, Regex.Defect.fault?, h, pure, Except.pure, throw,
        throwThe, MonadExceptOf.throw]

namespace Comparison

def isEquality : Comparison → Bool
  | equals | notEquals => true
  | _ => false

/-- An integer beyond the range of floats, against a float. -/
inductive Clash : Value.Numeric → Value.Numeric → Prop where
  | intFloat {n : Int} {x : Float} (h : Number.floatLimit ≤ n.natAbs) : Clash (.int n) (.float x)
  | floatInt {x : Float} {n : Int} (h : Number.floatLimit ≤ n.natAbs) : Clash (.float x) (.int n)

variable {op : Comparison} {f : Fault}

theorem distance_error_iff {a b : Value.Numeric} :
    distance a b = .error f ↔ f = .integerTooLarge ∧ Clash a b := by
  constructor
  · intro h
    cases a <;> cases b <;> simp only [distance] at h
    case int.int => cases h
    case float.float => cases h
    case int.float n x =>
      cases hn : Number.ofInt? n with
      | none =>
        rw [hn] at h
        cases h
        exact ⟨rfl, .intFloat ((Number.ofInt?_eq_none_iff n).mp hn)⟩
      | some y =>
        rw [hn] at h
        cases h
    case float.int x n =>
      cases hn : Number.ofInt? n with
      | none =>
        rw [hn] at h
        cases h
        exact ⟨rfl, .floatInt ((Number.ofInt?_eq_none_iff n).mp hn)⟩
      | some y =>
        rw [hn] at h
        cases h
  · rintro ⟨rfl, h | h⟩
    all_goals
      have hn := (Number.ofInt?_eq_none_iff _).mpr h
      simp only [distance, hn]
      rfl

theorem bind_pure_error_iff {α β : Type} {x : Except Fault α} {g : α → β} :
    (do return g (← x)) = .error f ↔ x = .error f := by
  cases x <;> simp [bind, Except.bind, pure, Except.pure]

theorem holdsOfNumbers_error_iff {value other : Value.Numeric} {upper : Option Float} :
    op.holdsOfNumbers value other (floatValue upper) = .error f ↔
      f = .integerTooLarge ∧ op.isEquality = true ∧ isNaN value = false ∧ Clash value other := by
  cases hv : isNaN value with
  | true => simp [holdsOfNumbers, hv, pure, Except.pure]
  | false =>
    cases op
    case equals =>
      simp only [holdsOfNumbers, hv, Bool.false_eq_true, if_false, isEquality, true_and]
      rw [bind_pure_error_iff, distance_error_iff]
    case notEquals =>
      simp only [holdsOfNumbers, hv, Bool.false_eq_true, if_false, isEquality, true_and]
      rw [bind_pure_error_iff, distance_error_iff]
    case between =>
      -- The upper end is a float or missing, so that it is never mistyped.
      cases upper with
      | none => simp [holdsOfNumbers, hv, isEquality, floatValue, Value.isNull, pure, Except.pure]
      | some u =>
        cases hlow : (value.compare other).any (· != .lt) <;>
          simp [holdsOfNumbers, hv, hlow, isEquality, floatValue, Value.isNull, Value.numeric?,
            pure, Except.pure]
    all_goals simp [holdsOfNumbers, hv, isEquality, pure, Except.pure]

theorem holdsOfText_error_iff {value : Option String} {other : String} :
    op.holdsOfText value other = .error f ↔
      op = .matches ∧ value.isSome = true ∧ Regex.Refuses other f := by
  cases value with
  | none => simp [holdsOfText, pure, Except.pure]
  | some s => cases op <;> simp [holdsOfText, expressionFound_error_iff, pure, Except.pure]

def comparesTexts : Value → Value → Bool
  | .null, _ | .bool _, _ => false
  | value, other => !(isNumber value && isNumber other)

/-- The faults of comparing a value with another one. -/
inductive Faults : Comparison → Value → Value → Fault → Prop where
  /-- Equality with a float takes an integer for the nearest float, which it may not have. -/
  | intFloat {op n x} (hop : op.isEquality = true) (hn : Number.floatLimit ≤ n.natAbs) :
      Faults op (.int n) (.float x) .integerTooLarge
  | floatInt {op x n} (hop : op.isEquality = true) (hx : x.isNaN = false)
      (hn : Number.floatLimit ≤ n.natAbs) : Faults op (.float x) (.int n) .integerTooLarge
  | expression {value other f} (hv : comparesTexts value other = true)
      (hf : Regex.Refuses other.fileText f) : Faults .matches value other f

theorem holds_texts {value other upper : Value} (h : comparesTexts value other = true)
    (he : op ≠ .exists) (hn : op ≠ .notExists) :
    op.holds value other upper = op.holdsOfText (some value.fileText) other.fileText := by
  cases value <;> simp_all [comparesTexts, holds, isNumber]

theorem faults_texts {value other : Value} (h : comparesTexts value other = true) :
    op.Faults value other f ↔ op = .matches ∧ Regex.Refuses other.fileText f := by
  constructor
  · intro hf
    cases hf with
    | intFloat | floatInt => simp [comparesTexts, isNumber] at h
    | expression _ hf => exact ⟨rfl, hf⟩
  · rintro ⟨rfl, hf⟩
    exact .expression h hf

theorem holds_numbers {value other upper : Value} {a b : Value.Numeric}
    (hv : isNumber value = true) (ho : isNumber other = true) (ha : value.numeric? = some a)
    (hb : other.numeric? = some b) (he : op ≠ .exists) (hn : op ≠ .notExists) :
    op.holds value other upper = op.holdsOfNumbers a b upper := by
  cases value <;> simp_all [holds, isNumber, holdsOfNumber]

theorem faults_numbers {value other : Value} {a b : Value.Numeric} (hv : isNumber value = true)
    (ho : isNumber other = true) (ha : value.numeric? = some a) (hb : other.numeric? = some b) :
    op.Faults value other f ↔
      f = .integerTooLarge ∧ op.isEquality = true ∧ isNaN a = false ∧ Clash a b := by
  constructor
  · intro hf
    cases hf with
    | intFloat hop hn =>
      cases ha
      cases hb
      exact ⟨rfl, hop, rfl, .intFloat hn⟩
    | floatInt hop hx hn =>
      cases ha
      cases hb
      exact ⟨rfl, hop, hx, .floatInt hn⟩
    | expression h => cases value <;> simp_all [comparesTexts, isNumber]
  · rintro ⟨rfl, hop, hx, hc⟩
    cases hc with
    | intFloat hn =>
      cases value <;> cases other <;> simp_all [isNumber, Value.numeric?, Faults.intFloat]
    | floatInt hn =>
      cases value <;> cases other <;> simp_all [isNumber, Value.numeric?, isNaN, Faults.floatInt]

theorem Faults.operator {value other : Value} (h : op.Faults value other f) :
    op.isEquality = true ∨ op = .matches := by
  cases h with
  | intFloat hop | floatInt hop => exact .inl hop
  | expression => exact .inr rfl

theorem not_faults_null {other : Value} : ¬ op.Faults .null other f := by
  intro h
  cases h with
  | expression hv => simp [comparesTexts] at hv

theorem not_faults_bool {b : Bool} {other : Value} : ¬ op.Faults (.bool b) other f := by
  intro h
  cases h with
  | expression hv => simp [comparesTexts] at hv

theorem exists_numeric {v : Value} (h : isNumber v = true) : ∃ a, v.numeric? = some a := by
  cases v <;> simp_all [isNumber, Value.numeric?]

/-- A comparison ends in a fault for the reasons given and no others. -/
theorem holds_error_iff {value other : Value} {upper : Option Float} :
    op.holds value other (floatValue upper) = .error f ↔ op.Faults value other f := by
  by_cases he : op = .exists
  · have hf : ¬ op.Faults value other f := fun h => by simpa [he, isEquality] using h.operator
    simpa [holds, he, pure, Except.pure] using hf
  by_cases hn : op = .notExists
  · have hf : ¬ op.Faults value other f := fun h => by simpa [hn, isEquality] using h.operator
    simpa [holds, hn, pure, Except.pure] using hf
  cases ht : comparesTexts value other with
  | true =>
    rw [holds_texts ht he hn, holdsOfText_error_iff, faults_texts ht]
    simp
  | false =>
    by_cases hnull : value = .null
    · subst hnull
      simp [holds, he, hn, not_faults_null, pure, Except.pure]
    by_cases hbool : ∃ b, value = .bool b
    · obtain ⟨b, rfl⟩ := hbool
      cases op <;> simp_all [holds, not_faults_bool, pure, Except.pure]
    have hb : isNumber value = true ∧ isNumber other = true := by
      cases value <;> simp_all [comparesTexts]
    obtain ⟨a, ha⟩ := exists_numeric hb.1
    obtain ⟨b, hb'⟩ := exists_numeric hb.2
    rw [holds_numbers hb.1 hb.2 ha hb' he hn, holdsOfNumbers_error_iff,
      faults_numbers hb.1 hb.2 ha hb']

end Comparison

end BuildingQuery
