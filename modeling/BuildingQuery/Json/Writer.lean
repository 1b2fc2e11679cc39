import BuildingQuery.Number.Decimal
import BuildingQuery.Text.Quoted
import BuildingQuery.Value

/-! JSON text of data, in ASCII. Without an indent all stands on one line; with one, every item
starts a line, and each level is indented by that many blanks. -/

namespace BuildingQuery.Json

open Text

/-- A character of a JSON string; beyond ASCII by its one or two UTF-16 units. -/
def escapedChar (c : Char) : List Char :=
  let n := c.toNat
  let unit (u : Nat) : List Char := '\\' :: 'u' :: hexText u 4
  if c == '"' || c == '\\' then ['\\', c]
  else if c == '\n' then ['\\', 'n']
  else if c == '\r' then ['\\', 'r']
  else if c == '\t' then ['\\', 't']
  else if n == 8 then ['\\', 'b']
  else if n == 12 then ['\\', 'f']
  else if 32 ≤ n && n < 127 then [c]
  else if n < 0x10000 then unit n
  else unit (0xD800 + (n - 0x10000) / 0x400) ++ unit (0xDC00 + (n - 0x10000) % 0x400)

def stringText (s : String) : String :=
  String.ofList ('"' :: s.toList.flatMap escapedChar ++ ['"'])

def floatText (x : Float) : String :=
  if x.isNaN then "NaN"
  else if x.isFinite then Number.text x
  else if 0 < x then "Infinity" else "-Infinity"

/-- Keys are strings, those of numbers too. -/
def keyText : Key → String
  | .int n => stringText (toString n)
  | .float x => stringText (floatText x)
  | .str s => stringText s

def lineBreak (indent : Option Int) (level : Nat) : String :=
  match indent with
  | none => ""
  | some n => String.ofList ('\n' :: List.replicate (n.toNat * level) ' ')

def bracketed (indent : Option Int) (level : Nat) (left right : String) (items : List String) :
    String :=
  if items.isEmpty then left ++ right
  else
    let comma := if indent.isSome then "," else ", "
    left ++ lineBreak indent (level + 1) ++
      (comma ++ lineBreak indent (level + 1)).intercalate items ++ lineBreak indent level ++ right

mutual

def textAt (indent : Option Int) (level : Nat) : Value → String
  | .null => "null"
  | .bool b => if b then "true" else "false"
  | .int n => toString n
  | .float x => floatText x
  | .str s => stringText s
  | .list items => bracketed indent level "[" "]" (itemTexts indent (level + 1) items)
  | .map entries => bracketed indent level "\x7b" "\x7d" (entryTexts indent (level + 1) entries)

def itemTexts (indent : Option Int) (level : Nat) : List Value → List String
  | [] => []
  | v :: vs => textAt indent level v :: itemTexts indent level vs

def entryTexts (indent : Option Int) (level : Nat) : List (Key × Value) → List String
  | [] => []
  | (k, v) :: es => (keyText k ++ ": " ++ textAt indent level v) :: entryTexts indent level es

end

def text (indent : Option Int) (v : Value) : String := textAt indent 0 v

end BuildingQuery.Json
