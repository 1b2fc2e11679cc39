import BuildingQuery.Fault
import BuildingQuery.Number.Reader
import BuildingQuery.Pattern
import BuildingQuery.Regex.Matcher
import BuildingQuery.Regex.Reader
import BuildingQuery.Value.Text

/-! How a value is compared with another one. A comparison that has no meaning for its values does
not hold. -/

namespace BuildingQuery

inductive Comparison where
  | equals
  | notEquals
  | contains
  | notContains
  | startsWith
  | endsWith
  | matches
  | greaterThan
  | lessThan
  | greaterOrEqual
  | lessOrEqual
  | between
  | exists
  | notExists
deriving DecidableEq

inductive TextComparison where
  | equals
  | notEquals
  | contains
  | notContains
  | startsWith
  | endsWith
  | matches
deriving DecidableEq

inductive NumberComparison where
  | equals
  | notEquals
  | greaterThan
  | lessThan
  | greaterOrEqual
  | lessOrEqual
  | between
deriving DecidableEq

namespace TextComparison

def toComparison : TextComparison → Comparison
  | equals => .equals
  | notEquals => .notEquals
  | contains => .contains
  | notContains => .notContains
  | startsWith => .startsWith
  | endsWith => .endsWith
  | .matches => .matches

def all : List TextComparison :=
  [equals, notEquals, contains, notContains, startsWith, endsWith, .matches]

end TextComparison

namespace NumberComparison

def toComparison : NumberComparison → Comparison
  | equals => .equals
  | notEquals => .notEquals
  | greaterThan => .greaterThan
  | lessThan => .lessThan
  | greaterOrEqual => .greaterOrEqual
  | lessOrEqual => .lessOrEqual
  | between => .between

def all : List NumberComparison :=
  [equals, notEquals, greaterThan, lessThan, greaterOrEqual, lessOrEqual, between]

end NumberComparison

namespace Comparison

def all : List Comparison :=
  [equals, notEquals, contains, notContains, startsWith, endsWith, .matches, greaterThan, lessThan,
    greaterOrEqual, lessOrEqual, between, .exists, notExists]

/-- The name in documents. -/
def name : Comparison → String
  | equals => "equals"
  | notEquals => "notEquals"
  | contains => "contains"
  | notContains => "notContains"
  | startsWith => "startsWith"
  | endsWith => "endsWith"
  | .matches => "matches"
  | greaterThan => "greaterThan"
  | lessThan => "lessThan"
  | greaterOrEqual => "greaterOrEqual"
  | lessOrEqual => "lessOrEqual"
  | between => "between"
  | .exists => "exists"
  | notExists => "notExists"

def named? (s : String) : Option Comparison := all.find? (·.name == s)

def holdsOfNothing (op : Comparison) : Bool := op == notEquals || op == notExists

end Comparison

def TextComparison.name (op : TextComparison) : String := op.toComparison.name

def TextComparison.named? (s : String) : Option TextComparison :=
  TextComparison.all.find? (·.name == s)

def NumberComparison.name (op : NumberComparison) : String := op.toComparison.name

def NumberComparison.named? (s : String) : Option NumberComparison :=
  NumberComparison.all.find? (·.name == s)

/-- Whether a regular expression is found in a text; one that is malformed is found nowhere. -/
def expressionFound (expression s : String) : Except Fault Bool :=
  match Regex.read expression with
  | .ok e => return Regex.isFound e.flags e.body s
  | .error .malformed => return false
  | .error .hugeCount => throw .hugeCount
  | .error .scriptConflict => throw .scriptConflict

def hasInfix (part s : List Char) : Bool := Pattern.anySuffix (part.isPrefixOf ·) s

namespace Comparison

/-- Comparison of texts without regard to case. A text with wildcards is a pattern: for the whole
value, or for a part of it where the comparison looks for a part. -/
def holdsOfText (op : Comparison) (value : Option String) (other : String) : Except Fault Bool :=
  match value with
  | none => return op.holdsOfNothing
  | some value =>
    let wild := Pattern.hasWildcard other
    let low := Text.lowerChars value.toList
    let otherLow := Text.lowerChars other.toList
    let containsOther :=
      if wild then Pattern.accepts ("*" ++ other ++ "*") value else hasInfix otherLow low
    match op with
    | equals => return Pattern.accepts other value
    | notEquals => return !Pattern.accepts other value
    | contains => return containsOther
    | notContains => return !containsOther
    | startsWith =>
      return if wild then Pattern.accepts (other ++ "*") value else otherLow.isPrefixOf low
    | endsWith =>
      return if wild then Pattern.accepts ("*" ++ other) value else otherLow.isSuffixOf low
    | .matches => expressionFound other value
    | _ => return false

/-- Numbers nearer to each other than this are equal. -/
def tolerance : Float := Number.ofRatio false 1 10000

/-- The distance of two numbers: exact between integers, else that of the nearest floats. -/
def distance : Value.Numeric → Value.Numeric → Except Fault Value.Numeric
  | .int m, .int n => return .int (m - n).natAbs
  | .float x, .float y => return .float (x - y).abs
  | .int m, .float y =>
    match Number.ofInt? m with
    | some x => return .float (x - y).abs
    | none => throw .integerTooLarge
  | .float x, .int n =>
    match Number.ofInt? n with
    | some y => return .float (x - y).abs
    | none => throw .integerTooLarge

def isNaN : Value.Numeric → Bool
  | .int _ => false
  | .float x => x.isNaN

/-- Comparison of numbers. Equality is up to the tolerance, so that two numbers of which one is not
a number are neither equal nor different; order is exact. -/
def holdsOfNumbers (op : Comparison) (value other : Value.Numeric) (upper : Value) :
    Except Fault Bool :=
  let order := value.compare other
  if isNaN value then return op == notEquals
  else match op with
  | equals => do return (← distance value other).compare (.float tolerance) == some .lt
  | notEquals => do
    return ((← distance value other).compare (.float tolerance)).any (· != .lt)
  | greaterThan => return order == some .gt
  | lessThan => return order == some .lt
  | greaterOrEqual => return order.any (· != .lt)
  | lessOrEqual => return order.any (· != .gt)
  | between =>
    if upper.isNull || !order.any (· != .lt) then return false
    else match upper.numeric? with
      | some upper => return (value.compare upper).any (· != .gt)
      | none => throw .mistyped
  | _ => return false

def holdsOfNumber (op : Comparison) (value other upper : Value) : Except Fault Bool :=
  match value with
  | .null => return op == notEquals
  | value =>
    match value.numeric?, other.numeric? with
    | some value, some other => op.holdsOfNumbers value other upper
    | some value, none =>
      if isNaN value then return op == notEquals
      else if op == between && upper.isNull then return false
      else match op with
        | equals | notEquals | greaterThan | lessThan | greaterOrEqual | lessOrEqual | between =>
          throw .mistyped
        | _ => return false
    | none, _ => throw .mistyped

def truth? : Value → Option Bool
  | .bool b => some b
  | .str s =>
    if s == "true" || s == "TRUE" || s == "1" || s == ".T." then some true
    else if s == "false" || s == "FALSE" || s == "0" || s == ".F." then some false
    else none
  | _ => none

/-- The float that a value stands for; in texts a comma may stand for the point. -/
def number? : Value → Except Fault (Option Float)
  | .int n =>
    match Number.ofInt? n with
    | some x => return some x
    | none => throw .integerTooLarge
  | .float x => return some x
  | .str s =>
    let s := Text.trimWith Text.isSpace s.toList
    return Number.ofText? (s.map fun c => if c == ',' then '.' else c)
  | _ => return none

def isNumber : Value → Bool
  | .int _ | .float _ => true
  | _ => false

/-- Comparison of any values: of numbers if both are, of truth values if the first is one, and of
texts otherwise. -/
def holds (op : Comparison) (value other upper : Value) : Except Fault Bool :=
  if op == .exists then return !value.isNull
  else if op == notExists then return value.isNull
  else match value with
    | .null => return op.holdsOfNothing
    | .bool b =>
      match op with
      | equals => return truth? other == some b
      | notEquals => return truth? other != some b
      | _ => return false
    | value =>
      if isNumber value && isNumber other then op.holdsOfNumber value other upper
      else op.holdsOfText (some value.fileText) other.fileText

end Comparison

end BuildingQuery
