import BuildingQuery.Number.Order
import BuildingQuery.OrderedMap

/-! Plain data as it stands in documents and in the attributes of a model. -/

namespace BuildingQuery

/-- A key of a map. Numbers of equal value are the same key. -/
inductive Key where
  | int (n : Int)
  | float (x : Float)
  | str (s : String)

def Key.same : Key → Key → Bool
  | .int m, .int n => m == n
  | .float x, .float y => x == y
  | .int n, .float x | .float x, .int n => Number.compareIntFloat n x == some .eq
  | .str s, .str t => s == t
  | _, _ => false

instance : BEq Key := ⟨Key.same⟩

instance : Coe String Key := ⟨.str⟩

inductive Value where
  | null
  | bool (b : Bool)
  | int (n : Int)
  | float (x : Float)
  | str (s : String)
  | list (items : List Value)
  | map (entries : List (Key × Value))
deriving Inhabited

namespace Value

/-- A map with text keys, given by its entries. -/
def record (entries : List (String × Value)) : Value :=
  .map (entries.map fun e => (.str e.1, e.2))

/-- The value of a text key; only maps have any. -/
def field? (v : Value) (name : String) : Option Value :=
  match v with
  | .map entries => OrderedMap.get? entries (.str name)
  | _ => none

def isNull : Value → Bool
  | .null => true
  | _ => false

/-- Numbers, truth values among them, as integers or floats. -/
inductive Numeric where
  | int (n : Int)
  | float (x : Float)

/-- A truth value counts as one or zero. -/
def numeric? : Value → Option Numeric
  | .bool b => some (.int (if b then 1 else 0))
  | .int n => some (.int n)
  | .float x => some (.float x)
  | _ => none

def Numeric.compare : Numeric → Numeric → Option Ordering
  | .int m, .int n => some (Ord.compare m n)
  | .int n, .float x => Number.compareIntFloat n x
  | .float x, .int n => (Number.compareIntFloat n x).map Ordering.swap
  | .float x, .float y => Number.compareFloats x y

mutual

/-- Equality of data: numbers and truth values by what they count, maps entry by entry. -/
def same : Value → Value → Bool
  | .null, .null => true
  | .str s, .str t => s == t
  | .list xs, .list ys => sameItems xs ys
  | .map xs, .map ys => sameEntries xs ys
  | v, w =>
    match v.numeric?, w.numeric? with
    | some m, some n => m.compare n == some .eq
    | _, _ => false

def sameItems : List Value → List Value → Bool
  | [], [] => true
  | x :: xs, y :: ys => same x y && sameItems xs ys
  | _, _ => false

def sameEntries : List (Key × Value) → List (Key × Value) → Bool
  | [], [] => true
  | (k, x) :: xs, (l, y) :: ys => k.same l && same x y && sameEntries xs ys
  | _, _ => false

end

/-- The key that a value stands for, if it is of a kind that keys are. -/
def key? : Value → Option Key
  | .str s => some (.str s)
  | v => v.numeric?.map fun
    | .int n => .int n
    | .float x => .float x

end Value

end BuildingQuery
