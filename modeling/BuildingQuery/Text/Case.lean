import BuildingQuery.Text.CharClass
import BuildingQuery.Text.Table.Case
import BuildingQuery.Text.Table.CaseTwin

/-! Lower and upper forms of text, and equality of characters without regard to case.

A text's lower form is taken character by character except for the capital sigma, which is written
as a final sigma at the end of a word, and for the dotted capital I, which becomes two characters.
-/

namespace BuildingQuery.Text

def mapByRuns (runs : List Table.CaseRun) (c : Nat) : Nat :=
  (runs.findSome? fun r => r.image? c).getD c

def lowerChar (c : Char) : Char :=
  let n := c.toNat
  if n < 128 then
    if 65 ≤ n && n ≤ 90 then Char.ofNat (n + 32) else c
  else if n == 304 then 'i'
  else Char.ofNat (mapByRuns Table.lowerRuns n)

/-- The upper form of a character, which can have several characters. -/
def upperChars (c : Char) : List Char :=
  let n := c.toNat
  if n < 128 then
    if 97 ≤ n && n ≤ 122 then [Char.ofNat (n - 32)] else [c]
  else match Table.upperLong.lookup n with
    | some cs => cs.map Char.ofNat
    | none => [Char.ofNat (mapByRuns Table.upperRuns n)]

/-- Whether the next letter, past characters to ignore, has case. -/
def nextHasCase (s : List Char) : Bool :=
  match s.dropWhile isCaseIgnorable with
  | [] => false
  | c :: _ => isCased c

/-- The lower form of a character between the text before it, nearest first, and the text after. -/
def lowerAt (before : List Char) (c : Char) (after : List Char) : List Char :=
  if c = 'Σ' then [if nextHasCase before && !nextHasCase after then 'ς' else 'σ']
  else if c = 'İ' then ['i', '\u0307']
  else [lowerChar c]

def lowerFrom : List Char → List Char → List Char
  | _, [] => []
  | before, c :: after => lowerAt before c after ++ lowerFrom (c :: before) after

def lowerChars (s : List Char) : List Char := lowerFrom [] s

def lower (s : String) : String := String.ofList (lowerChars s.toList)

def upper (s : String) : String := String.ofList (s.toList.flatMap upperChars)

/-- Whether a character differs from its lower form or from the start of its upper form. -/
def hasCase (c : Char) : Bool :=
  lowerChar c != c || (upperChars c).head? != some c

def twinsOf (c : Char) : List Nat := (Table.twins.lookup c.toNat).getD []

/-- Whether `c` stands for the pattern's character `a` when case does not count: their lower forms
are equal or twins. A character without case stands for itself only. -/
def sameIgnoringCase (c a : Char) : Bool :=
  if hasCase a then
    let low := lowerChar a
    lowerChar c == low || (twinsOf low).contains (lowerChar c).toNat
  else c == a

end BuildingQuery.Text
