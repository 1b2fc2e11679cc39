import BuildingQuery.Value.Text

/-! What records show of themselves: to dotted paths, in texts, and where they are written out. -/

namespace BuildingQuery

inductive Facet where
  | value (v : Value)
  | tuple (items : List Facet)
  | table (entries : List (Key × Facet))
  | record (kind : String) (fields : List (String × Facet))
deriving Inhabited

namespace Facet

variable {α : Type}

def ofOption (f : α → Facet) : Option α → Facet
  | none => .value .null
  | some a => f a

def text (s : String) : Facet := .value (.str s)

def int (n : Int) : Facet := .value (.int n)

def float (x : Float) : Facet := .value (.float x)

def texts (ss : List String) : Facet := .tuple (ss.map text)

def ints (ns : List Int) : Facet := .tuple (ns.map int)

def ofTexts (f : α → Facet) (m : OrderedMap String α) : Facet :=
  .table (m.map fun e => (.str e.1, f e.2))

def ofInts (f : α → Facet) (m : OrderedMap Int α) : Facet :=
  .table (m.map fun e => (.int e.1, f e.2))

mutual

def toValue : Facet → Value
  | .value v => v
  | .tuple items => .list (toValues items)
  | .table entries => .map (tableValues entries)
  | .record _ fields => .map (fieldValues fields)

def toValues : List Facet → List Value
  | [] => []
  | f :: fs => toValue f :: toValues fs

def tableValues : List (Key × Facet) → List (Key × Value)
  | [] => []
  | (k, f) :: fs => (k, toValue f) :: tableValues fs

def fieldValues : List (String × Facet) → List (Key × Value)
  | [] => []
  | (n, f) :: fs => (.str n, toValue f) :: fieldValues fs

end

mutual

/-- The facet as a literal: tuples in brackets, tables behind their kind, records as calls. -/
def literal : Facet → String
  | .value v => v.literal
  | .tuple [f] => "(" ++ literal f ++ ",)"
  | .tuple items => "(" ++ Value.separated (literals items) ++ ")"
  | .table entries =>
    "mappingproxy(\x7b" ++ Value.separated (entryLiterals entries) ++ "\x7d)"
  | .record kind fields => kind ++ "(" ++ Value.separated (fieldLiterals fields) ++ ")"

def literals : List Facet → List String
  | [] => []
  | f :: fs => literal f :: literals fs

def entryLiterals : List (Key × Facet) → List String
  | [] => []
  | (k, f) :: fs => (Value.keyLiteral k ++ ": " ++ literal f) :: entryLiterals fs

def fieldLiterals : List (String × Facet) → List String
  | [] => []
  | (n, f) :: fs => (n ++ "=" ++ literal f) :: fieldLiterals fs

end

/-- How a facet reads: values as in a model file, the fields of a record side by side. -/
def fileText : Facet → String
  | .value v => v.fileText
  | .record _ fields => " ".intercalate (fieldLiterals fields)
  | f => f.literal

end Facet

end BuildingQuery
