import BuildingQuery.Number.Decimal
import BuildingQuery.Text.Quoted
import BuildingQuery.Value

/-! The text of data: as a literal, as plain text, and as it reads in a model file. -/

namespace BuildingQuery.Value

def separated (parts : List String) : String := ", ".intercalate parts

def keyLiteral : Key → String
  | .int n => toString n
  | .float x => Number.text x
  | .str s => Text.quoted s

mutual

def literal : Value → String
  | .null => "None"
  | .bool b => if b then "True" else "False"
  | .int n => toString n
  | .float x => Number.text x
  | .str s => Text.quoted s
  | .list items => "[" ++ separated (literals items) ++ "]"
  | .map entries => "\x7b" ++ separated (entryLiterals entries) ++ "\x7d"

def literals : List Value → List String
  | [] => []
  | v :: vs => literal v :: literals vs

def entryLiterals : List (Key × Value) → List String
  | [] => []
  | (k, v) :: es => (keyLiteral k ++ ": " ++ literal v) :: entryLiterals es

end

/-- The literal, except that text stands for itself. -/
def plainText : Value → String
  | .str s => s
  | v => v.literal

/-- How a value reads in a model file: nothing for a missing value, truth values in lower case, and
whole numbers without a fraction. -/
def fileText : Value → String
  | .null => ""
  | .bool b => if b then "true" else "false"
  | .float x =>
    match Number.int? x with
    | some n => toString n
    | none => Number.text x
  | v => v.plainText

end BuildingQuery.Value
