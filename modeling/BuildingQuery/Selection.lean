import BuildingQuery.Condition.Document
import BuildingQuery.Condition.Evaluate
import BuildingQuery.Selection.Path

/-! Selecting the elements of an index that a rule names. -/

namespace BuildingQuery

/-- The ids that a rule selects, in the order of the index. -/
structure Selection where
  rule : Rule
  ids : List Int

namespace Selection

/-- Elements are tested one after the other; the first fault ends the selection. -/
def of (ix : Index) (r : Rule) : Except Fault Selection := do
  let found ← ix.records.filterM fun e => r.mode.holds (some ix) e r.conditions
  return ⟨r, found.map (·.id)⟩

def count (s : Selection) : Nat := s.ids.length

def elements (s : Selection) (ix : Index) : List Element := s.ids.filterMap ix.get?

/-- The key of an element in groups by a path; elements on which it leads nowhere share one. -/
def groupKey (path : String) (e : Element) : String :=
  match e.at path with
  | none => "undefined"
  | some f => f.fileText

def groupBy (s : Selection) (ix : Index) (path : String) : OrderedMap String (List Int) :=
  groupIds (fun e => [groupKey path e]) (s.elements ix)

def document (s : Selection) : Value := Value.record [
  ("expressIds", .list (s.ids.map .int)),
  ("count", .int s.count),
  ("rule", s.rule.document)]

end Selection

namespace Rule

/-- A rule for conditions that have none, all of which must hold. -/
def inline (conditions : List Condition) : Rule where
  id := "inline-query"
  name := "Inline Query"
  description := none
  conditions
  mode := .all

/-- An inline rule from one condition document or a list of them, up to the first that is wrong. -/
def ofQuery (v : Value) : Checked Rule :=
  let documents := match v with
    | .list vs => vs
    | v => [v]
  let rec readFirst : List Value → Checked (List Condition)
    | [] => .ok []
    | d :: ds => (Condition.read .plain d).andThen fun c => (readFirst ds).map (c :: ·)
  (readFirst documents).map inline

end Rule

end BuildingQuery
