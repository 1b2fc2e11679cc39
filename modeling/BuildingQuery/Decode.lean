import BuildingQuery.Decode.Issue
import BuildingQuery.Number.Reader

/-! Reading typed data out of plain data. Readers are lenient: a text that is written like a number
is one, numbers stand for truth values and truth values for numbers, and a whole float is an
integer. -/

namespace BuildingQuery

/-- Where plain data comes from. An integer too large for a float stands for an infinity in data
read from JSON text, and for no float elsewhere. -/
inductive Origin where
  | plain
  | json
deriving DecidableEq

abbrev Decoder (α : Type) := Value → Checked α

namespace Decoder

open Number Text

def text : Decoder String
  | .str s => .ok s
  | _ => .fail .notText

def fitsWord (n : Int) : Bool := Int64.minValue.toInt ≤ n && n ≤ Int64.maxValue.toInt

/-- Words for truth values, in any case. -/
def truthWord? (s : String) : Option Bool :=
  let word := String.ofList (s.toList.map asciiLower)
  if ["1", "true", "t", "yes", "y", "on"].contains word then some true
  else if ["0", "false", "f", "no", "n", "off"].contains word then some false
  else none

def truthOfInt (n : Int) : Checked Bool :=
  if n = 0 then .ok false
  else if n = 1 then .ok true
  else if fitsWord n then .fail .unreadBool
  else .fail .notBool

/-- Whether a whole float may stand for an integer: it lies strictly between the ends of a word. -/
def floatFitsWord (n : Int) : Bool :=
  Int64.minValue.toInt < n && n ≤ Int64.maxValue.toInt

def bool : Decoder Bool
  | .bool b => .ok b
  | .int n => truthOfInt n
  | .float x => match int? x with
    | some n => if floatFitsWord n then truthOfInt n else .fail .notBool
    | none => .fail .notBool
  | .str s => match truthWord? s with
    | some b => .ok b
    | none => .fail .unreadBool
  | _ => .fail .notBool

/-- Nothing, or a point with zeros only behind it. -/
def isZeroFraction : List Char → Bool
  | [] => true
  | _ :: zeros => !zeros.isEmpty && zeros.all (· == '0')

/-- The digits of a whole number: single underscores may stand between them, and a fraction of zeros
behind them. -/
def wholeDigits? (s : List Char) : Option (List Char) :=
  let whole := s.takeWhile (· != '.')
  let fraction := s.drop whole.length
  let plain := whole.all fun c => isAsciiDigit c || c == '_'
  (joinGroups? whole).filter fun ds =>
    plain && isZeroFraction fraction && !ds.isEmpty && ds.all isAsciiDigit

/-- The digits of an integer, and whether it is negative. -/
def integerText? (s : String) : Option (Bool × List Char) :=
  match trimWith isBlank s.toList with
  | '-' :: s => (wholeDigits? s).map (true, ·)
  | '+' :: s => (wholeDigits? s).map (false, ·)
  | s => (wholeDigits? s).map (false, ·)

/-- A text with more digits after its leading zeros is too long for an integer. -/
def mostDigits : Nat := 4300

def integer : Decoder Int
  | .bool b => .ok (if b then 1 else 0)
  | .int n => .ok n
  | .float x =>
    if !x.isFinite then .fail .notFinite
    else match int? x with
      | none => .fail .fractional
      | some n => if floatFitsWord n then .ok n else .fail .integerTooLong
  | .str s => match integerText? s with
    | some (negative, ds) =>
      if (ds.dropWhile (· == '0')).length ≤ mostDigits then
        let n : Int := ofDigits (ds.map fun c => c.toNat - 48)
        .ok (if negative then -n else n)
      else .fail .integerTooLong
    | none => .fail .unreadInteger
  | _ => .fail .notInteger

/-- The text without underscores, if none stands at an end or beside another. -/
def withoutUnderscores? (s : List Char) : Option (List Char) :=
  let double := (s.zip (s.drop 1)).any fun (a, b) => a == '_' && b == '_'
  if s.head? == some '_' || s.getLast? == some '_' || double then none
  else some (s.filter (· != '_'))

def floatText? (s : String) : Option Float :=
  let s := trimWith isBlank s.toList
  (withoutUnderscores? s).bind float?

def float (origin : Origin) : Decoder Float
  | .bool b => .ok (if b then 1 else 0)
  | .int n =>
    match ofInt? n, origin with
    | some x, _ => .ok x
    | none, .json => .ok (if n < 0 then -infinity else infinity)
    | none, .plain => .fail .notFloat
  | .float x => .ok x
  | .str s => match floatText? s with
    | some x => .ok x
    | none => .fail .unreadFloat
  | _ => .fail .notFloat

/-- A value that is no list and no map is kept as it is. -/
def scalar : Decoder Value
  | .list _ | .map _ =>
    .wrong [⟨[.name "bool"], .notBool⟩, ⟨[.name "int"], .notInteger⟩, ⟨[.name "float"], .notFloat⟩,
      ⟨[.name "str"], .notText⟩]
  | v => .ok v

def named {α : Type} (named? : String → Option α) : Decoder α
  | .str s => match named? s with
    | some a => .ok a
    | none => .fail .notListed
  | _ => .fail .notListed

variable {α β : Type}

/-- A missing value stands for nothing. -/
def orNothing (d : Decoder α) : Decoder (Option α)
  | .null => .ok none
  | v => (d v).map some

def list (d : Decoder α) : Decoder (List α)
  | .list vs => .traverse d 0 vs
  | _ => .fail .notList

/-- Like a list, but called a tuple where it is missed. -/
def tuple (d : Decoder α) : Decoder (List α)
  | .list vs => .traverse d 0 vs
  | _ => .fail .notTuple

def entries [BEq β] (key : Decoder β) (d : Decoder α) : List (Key × Value) → Checked (List (β × α))
  | [] => .ok []
  | (k, v) :: es =>
    let name : Value := match k with
      | .int n => .int n
      | .float x => .float x
      | .str s => .str s
    let entry := Prod.mk <$> (key name).under [k.step, .name "[key]"] <*> (d v).under [k.step]
    List.cons <$> entry <*> entries key d es

/-- Keys that stand for the same are one, with the value of the last. -/
def map [BEq β] (key : Decoder β) (d : Decoder α) : Decoder (OrderedMap β α)
  | .map es => (entries key d es).map OrderedMap.ofList
  | _ => .fail .notMap

abbrev Fields := List (Key × Value)

def record (f : Fields → Checked α) : Decoder α
  | .map es => f es
  | _ => .fail .notRecord

/-- The spellings of a field, the preferred one first. -/
structure FieldName where
  preferred : String
  other : String

instance : Coe String FieldName := ⟨fun s => ⟨s, s⟩⟩

/-- The spelling that is used for a field, with the value. -/
def FieldName.find? (n : FieldName) (fs : Fields) : Option (String × Value) :=
  match OrderedMap.get? fs (.str n.preferred) with
  | some v => some (n.preferred, v)
  | none => (OrderedMap.get? fs (.str n.other)).map fun v => (n.other, v)

def required (fs : Fields) (name : FieldName) (d : Decoder α) : Checked α :=
  match name.find? fs with
  | some (used, v) => (d v).under [.name used]
  | none => .wrong [⟨[.name name.preferred], .missing⟩]

def optional (fs : Fields) (name : FieldName) (d : Decoder α) (default : α) : Checked α :=
  match name.find? fs with
  | some (used, v) => (d v).under [.name used]
  | none => .ok default

end Decoder

end BuildingQuery
