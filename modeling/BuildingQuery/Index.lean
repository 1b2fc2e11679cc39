import BuildingQuery.Element
import BuildingQuery.Hierarchy

/-! The elements of a model under their ids, with what is looked up in them. -/

namespace BuildingQuery

structure Index where
  elements : OrderedMap Int Element
  byType : OrderedMap String (List Int) := []
  byStorey : OrderedMap String (List Int) := []
  /-- Keys are a system and a code with a colon between them. -/
  byClassification : OrderedMap String (List Int) := []
  /-- Keys are names in lower case. -/
  byMaterial : OrderedMap String (List Int) := []
  propertySets : List String := []
  quantitySets : List String := []
  classificationSystems : List String := []
  hierarchy : Hierarchy

namespace Index

def records (ix : Index) : List Element := ix.elements.values

def ids (ix : Index) : List Int := ix.elements.keys

def get? (ix : Index) (id : Int) : Option Element := OrderedMap.get? ix.elements id

def size (ix : Index) : Nat := ix.elements.length

/-- Whether an id is that of an element; other numbers of the same value are the same id. -/
def contains (ix : Index) (key : Key) : Bool := ix.ids.any fun id => (Key.int id).same key

/-- The ids of a type, with those of its subtypes or without. -/
def idsOfType (ix : Index) (typeName : String) (subtypes : Bool) : List Int :=
  (ix.byType.filter fun (name, _) =>
    if subtypes then ix.hierarchy.isSubtype name typeName
    else Text.upper name == Text.upper typeName).flatMap (·.2)

def summary (ix : Index) : String :=
  s!"ElementIndex({ix.elements.length} elements, {ix.byType.length} types)"

end Index

/-- The ids of records in groups; a record can have several keys. -/
def groupIds (keys : Element → List String) (es : List Element) : OrderedMap String (List Int) :=
  es.foldl (fun m e => m.pushAll (keys e) e.id) []

namespace Element

def storeyKeys (e : Element) : List String :=
  match e.location.storey with
  | none | some "" => []
  | some s => [s]

def materialKeys (e : Element) : List String :=
  e.material.toList.map fun m => Text.lower m.name

def classificationKeys (e : Element) : List String :=
  e.classifications.map fun c => c.system ++ ":" ++ c.code

end Element

namespace Index

/-- Names with further ones, each of them once. -/
def addNames (known names : List String) : List String :=
  names.foldl (fun ns n => if ns.contains n then ns else ns ++ [n]) known

def empty (h : Hierarchy) : Index where
  elements := []
  hierarchy := h

/-- Takes in one more record, under its id in every lookup, and the names of the sets that are
joined to it. -/
def add (ix : Index) (e : Element) (propertySets quantitySets : List String) : Index where
  elements := ix.elements.put e.id e
  byType := ix.byType.push e.typeName e.id
  byStorey := ix.byStorey.pushAll e.storeyKeys e.id
  byClassification := ix.byClassification.pushAll e.classificationKeys e.id
  byMaterial := ix.byMaterial.pushAll e.materialKeys e.id
  propertySets := addNames ix.propertySets propertySets
  quantitySets := addNames ix.quantitySets quantitySets
  classificationSystems := addNames ix.classificationSystems (e.classifications.map (·.system))
  hierarchy := ix.hierarchy

end Index

end BuildingQuery
