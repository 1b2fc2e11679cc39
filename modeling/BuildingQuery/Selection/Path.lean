import BuildingQuery.Element
import BuildingQuery.Text.Case

/-! Dotted paths into records. A segment is the name of a field, in any of its spellings, or a key
of a map. -/

namespace BuildingQuery

/-- Other names of the fields of elements. -/
def fieldAliases : List (String × String) := [
  ("id", "express_id"),
  ("externalId", "global_id"),
  ("type", "ifc_class"),
  ("typeName", "ifc_class"),
  ("typeAncestry", "inheritance_chain")]

def isUpperLetter (c : Char) : Bool := 'A' ≤ c && c ≤ 'Z'

def isLowerLetter (c : Char) : Bool := 'a' ≤ c && c ≤ 'z'

/-- Whether a word starts at a character, given the characters before and after it: after a small
letter or digit, after capitals where small letters follow, and at a digit after a small letter. -/
def startsWord (before c : Char) (after : Option Char) : Bool :=
  (isUpperLetter c && (isLowerLetter before || Text.isAsciiDigit before ||
    (isUpperLetter before && after.any isLowerLetter))) ||
    (Text.isAsciiDigit c && isLowerLetter before)

def underscoredFrom (before : Char) : List Char → List Char
  | [] => []
  | c :: cs =>
    let rest := (if c == '-' then '_' else c) :: underscoredFrom c cs
    if startsWord before c cs.head? then '_' :: rest else rest

/-- A name in lower case with underscores between its words. -/
def underscored (name : String) : String :=
  Text.lower (String.ofList (underscoredFrom '_' name.toList))

namespace Facet

/-- The field of a record by the first of its spellings that the record has. -/
def field? (fields : List (String × Facet)) (name : String) : Option Facet :=
  [some name, fieldAliases.lookup name, some (underscored name)].findSome? fun spelling =>
    spelling.bind fun s => if s == "" then none else fields.lookup s

def step (segment : String) : Facet → Option Facet
  | .table entries => OrderedMap.get? entries (.str segment)
  | .record _ fields => field? fields segment
  | _ => none

/-- Whether there is nothing to be seen. -/
def isNull : Facet → Bool
  | .value v => v.isNull
  | _ => false

def walk : List String → Facet → Option Facet
  | [], f => some f
  | s :: ss, f => do
    let g ← f.step s
    if g.isNull then none else walk ss g

/-- Property values stand for their values. -/
def payload : Facet → Facet
  | .record kind fields => (fields.lookup "value").getD (.record kind fields)
  | f => f

end Facet

/-- What a dotted path leads to, if to anything. -/
def Element.at (e : Element) (path : String) : Option Facet :=
  match (Facet.walk (path.splitToList (· == '.')) e.facet).map Facet.payload with
  | some f => if f.isNull then none else some f
  | none => none

end BuildingQuery
