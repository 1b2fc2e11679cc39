import BuildingQuery.Text.Case

/-! Patterns for names, types and namespaces. A star stands for any run of characters, a question
mark for one character, and everything else for itself without regard to case. A pattern covers
the whole text. -/

namespace BuildingQuery.Pattern

open Text

def isWildcard (c : Char) : Bool := c == '*' || c == '?'

def hasWildcard (pattern : String) : Bool := pattern.toList.any isWildcard

/-- Whether some end of the text, the empty one included, passes the test. -/
def anySuffix (test : List Char → Bool) : List Char → Bool
  | [] => test []
  | c :: v => test (c :: v) || anySuffix test v

def globChars : List Char → List Char → Bool
  | [], v => v.isEmpty
  | a :: p, v =>
    if a = '*' then anySuffix (globChars p) v
    else match v with
      | [] => false
      | c :: v => (a = '?' || sameIgnoringCase c a) && globChars p v

/-- Whether the pattern covers the text. -/
def glob (pattern value : String) : Bool := globChars pattern.toList value.toList

/-- A pattern without wildcards is compared with the text by their lower forms. -/
def accepts (pattern value : String) : Bool :=
  if hasWildcard pattern then glob pattern value else lower value == lower pattern

/-- A missing text never passes. -/
def acceptsOpt (pattern : String) (value : Option String) : Bool :=
  value.any (accepts pattern)

end BuildingQuery.Pattern
