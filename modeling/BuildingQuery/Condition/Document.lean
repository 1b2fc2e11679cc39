import BuildingQuery.Condition.Reader
import BuildingQuery.Json.Writer

/-! Documents of conditions and rules. In a document every key is a text. A number that JSON cannot
write becomes nothing in the fields of unknown conditions, and in place of a predefined type. -/

namespace BuildingQuery

/-- The field with its value, or with nothing. -/
def fieldOf {α : Type} (name : String) (f : α → Value) (a : Option α) : String × Value :=
  (name, (a.map f).getD .null)

def TypeNames.document : TypeNames → Value
  | one s => .str s
  | many ss => .list (ss.map .str)

def ElevationTest.fields (t : ElevationTest) : List (String × Value) := [
  ("operator", .str t.comparison.name),
  ("value", .float t.value),
  fieldOf "valueTo" .float t.upper]

def RelationTarget.fields (t : RelationTarget) : List (String × Value) := [
  fieldOf "type" .str t.typeName,
  fieldOf "name" .str t.name]

/-- Whether the fields without a value are written. -/
inductive NullFields where
  | kept
  | dropped
deriving DecidableEq

/-- A record with the fields that are to be written. -/
def NullFields.record (n : NullFields) (fields : List (String × Value)) : Value :=
  Value.record (if n = .dropped then fields.filter (!·.2.isNull) else fields)

mutual

/-- Plain data as JSON has it. -/
def jsonForm : Value → Value
  | .float x => if x.isFinite then .float x else .null
  | .list vs => .list (jsonForms vs)
  | .map es => .map (OrderedMap.ofList (jsonEntries es))
  | v => v

def jsonForms : List Value → List Value
  | [] => []
  | v :: vs => jsonForm v :: jsonForms vs

def jsonEntries : List (Key × Value) → List (Key × Value)
  | [] => []
  | (k, v) :: es =>
    let name := match k with
      | .int n => toString n
      | .float x => Number.text x
      | .str s => s
    (.str name, jsonForm v) :: jsonEntries es

end

/-- Fields that hold plain data; those without a value are fields too, unless they are dropped. -/
def extraDocument (n : NullFields) (fields : List (Key × Value)) : List (Key × Value) :=
  (if n = .dropped then fields.filter (!·.2.isNull) else fields).map fun e => (e.1, jsonForm e.2)

namespace Condition

/-- The fields of a condition that is no group and not unknown, its kind first. -/
def fields (n : NullFields) : Condition → List (String × Value)
  | type t => [
    ("type", .str "entityType"),
    ("entityType", t.names.document),
    ("includeSubtypes", .bool t.subtypes),
    ("predefinedType", t.predefinedType.getD .null)]
  | property t => [
    ("type", .str "property"),
    ("propertySet", .str t.set),
    ("propertyName", .str t.name),
    ("operator", .str t.comparison.name),
    ("value", t.value),
    fieldOf "valueTo" .float t.upper]
  | spatial t => [
    ("type", .str "spatial"),
    ("level", .str t.level.name),
    fieldOf "name" .str t.name,
    fieldOf "elevation" (fun e => n.record e.fields) t.elevation]
  | material t => [
    ("type", .str "material"),
    fieldOf "name" .str t.name,
    fieldOf "minThickness" .float t.minThickness,
    fieldOf "maxThickness" .float t.maxThickness]
  | classification t => [
    ("type", .str "classification"),
    fieldOf "system" .str t.system,
    fieldOf "code" .str t.code,
    fieldOf "name" .str t.name]
  | attributeText t => [
    ("type", .str "attribute"),
    ("attribute", .str t.subject.label),
    ("operator", .str t.comparison.name),
    ("value", .str t.value)]
  | quantity t => [
    ("type", .str "quantity"),
    fieldOf "quantitySet" .str t.set,
    ("quantityName", .str t.name),
    ("operator", .str t.comparison.name),
    ("value", .float t.value),
    fieldOf "valueTo" .float t.upper]
  | relation t => [
    ("type", .str "relationship"),
    ("relation", .str t.relation.name),
    fieldOf "target" (fun r => n.record r.fields) t.target]
  | group _ _ | unknown _ _ => []

mutual

def document (n : NullFields) : Condition → Value
  | group kind members => Value.record [
    ("type", .str kind.name),
    ("conditions", .list (documents n members))]
  | unknown kind extras => .map ((.str "type", .str kind) :: extraDocument n extras)
  | type t => .map (extraDocument n (((type t).fields n).map fun f => (.str f.1, f.2)))
  | c => n.record (c.fields n)

def documents (n : NullFields) : List Condition → List Value
  | [] => []
  | c :: cs => document n c :: documents n cs

end

mutual

/-- Equality of conditions, as that of their data. -/
def same : Condition → Condition → Bool
  | group k cs, group l ds => k == l && sameAll cs ds
  | unknown k xs, unknown l ys => k == l && Value.sameEntries xs ys
  | group _ _, _ | unknown _ _, _ | _, group _ _ | _, unknown _ _ => false
  | c, d => (Value.record (c.fields .kept)).same (Value.record (d.fields .kept))

def sameAll : List Condition → List Condition → Bool
  | [], [] => true
  | c :: cs, d :: ds => same c d && sameAll cs ds
  | _, _ => false

end

end Condition

namespace Rule

/-- The document of a rule, without the fields that have no value. -/
def document (r : Rule) : Value := NullFields.dropped.record [
  ("id", .str r.id),
  ("name", .str r.name),
  fieldOf "description" .str r.description,
  ("conditions", .list (Condition.documents .dropped r.conditions)),
  ("mode", .str r.mode.name)]

/-- The document as JSON text. -/
def json (r : Rule) (indent : Option Int) : String := Json.text indent r.document

def same (r s : Rule) : Bool :=
  r.id == s.id && r.name == s.name && r.description == s.description &&
    Condition.sameAll r.conditions s.conditions && r.mode == s.mode

/-- Whether the rule's own text reads back as the rule. -/
def readsBack (r : Rule) : Bool := (ofJson (r.json (some 2))).toOption.any fun s => s.same r

end Rule

end BuildingQuery
