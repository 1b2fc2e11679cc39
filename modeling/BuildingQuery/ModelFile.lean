import BuildingQuery.ModelFile.Schema
import BuildingQuery.Value

/-! Model files as they are read: entities of the classes of a schema, whose attributes refer to
other entities. -/

namespace BuildingQuery

/-- What an attribute holds. A wrapped value brings the name of its type. -/
inductive FileValue where
  | plain (v : Value)
  | reference (id : Int)
  | wrapped (typeName : String) (v : Value)
  | list (items : List FileValue)
deriving Inhabited

structure FileEntity where
  id : Int
  className : String
  /-- Only attributes that are set. -/
  attributes : OrderedMap String FileValue

structure ModelFile where
  schema : Schema
  entities : List FileEntity

inductive FileError where
  /-- A property without a name has a value. -/
  | namelessProperty
  /-- A quantity without a name has a value. -/
  | namelessQuantity
  /-- An association does not say what it associates. -/
  | openAssociation
deriving DecidableEq

namespace FileValue

/-- The id that stands for an entity in a file. Wrapped values are entities without an own id. -/
def id? : FileValue → Option Int
  | reference id => some id
  | wrapped _ _ => some 0
  | _ => none

def ids : FileValue → List Int
  | list items => items.filterMap id?
  | v => v.id?.toList

def unwrapped : FileValue → Value
  | plain v | wrapped _ v => v
  | _ => .null

mutual

/-- The value with entities replaced by their ids. -/
def flat : FileValue → Value
  | plain v => v
  | reference id => .int id
  | wrapped _ _ => .int 0
  | list items => .list (flats items)

def flats : List FileValue → List Value
  | [] => []
  | v :: vs => flat v :: flats vs

end

end FileValue

namespace FileEntity

def value (e : FileEntity) (name : String) : FileValue :=
  (e.attributes.get? name).getD (.plain .null)

def text? (e : FileEntity) (name : String) : Option String :=
  match e.value name with
  | .plain (.str s) => some s
  | _ => none

def text (e : FileEntity) (name : String) : String := (e.text? name).getD ""

def number? (e : FileEntity) (name : String) : Option Float :=
  match e.value name with
  | .plain v => v.numeric?.bind fun
    | .int n => Number.ofInt? n
    | .float x => some x
  | _ => none

def reference? (e : FileEntity) (name : String) : Option Int :=
  match e.value name with
  | .reference id => some id
  | _ => none

def ids (e : FileEntity) (name : String) : List Int := (e.value name).ids

end FileEntity

namespace ModelFile

def entity? (f : ModelFile) (id : Int) : Option FileEntity := f.entities.find? (·.id == id)

def referred? (f : ModelFile) (e : FileEntity) (name : String) : Option FileEntity :=
  (e.reference? name).bind f.entity?

def ancestry (f : ModelFile) (e : FileEntity) : List String :=
  f.schema.hierarchy.ancestry e.className

def isA (f : ModelFile) (e : FileEntity) (className : String) : Bool :=
  (f.ancestry e).contains className

/-- The entities of a class and its subclasses in the order of their ancestries: a class comes
before its subclasses, and classes beside each other come by name. Ids order the entities of one
class. -/
def ofClass (f : ModelFile) (className : String) : List FileEntity :=
  let found := (f.entities.map fun e => (f.ancestry e, e)).filter fun e => e.1.contains className
  (found.mergeSort fun a b => !b.1.lex a.1 fun s t => s < t).map (·.2)

end ModelFile

end BuildingQuery
