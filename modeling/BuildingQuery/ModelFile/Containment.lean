import BuildingQuery.Input.Containment
import BuildingQuery.ModelFile

/-! The spatial containers of a model file. Every product is in the first container of each kind
that is met on the way up from it. -/

namespace BuildingQuery

namespace ModelFile

/-- The first relationship of one of some classes that names an entity in an attribute. -/
def naming? (f : ModelFile) (classes : List String) (field : String) (id : Int) :
    Option FileEntity :=
  f.entities.find? fun r => classes.contains r.className && (r.ids field).contains id

def isContainable (f : ModelFile) (e : FileEntity) : Bool :=
  ["IfcElement", "IfcGrid", "IfcAnnotation"].any (f.isA e)

/-- The structure that contains an entity, or else the object that it is a part of. A containment
that names no structure leads nowhere. -/
def parent? (f : ModelFile) (e : FileEntity) : Option FileEntity :=
  let containment := if f.isContainable e then
      f.naming? ["IfcRelContainedInSpatialStructure"] "RelatedElements" e.id
    else none
  match containment with
  | some r => f.referred? r "RelatingStructure"
  | none =>
    (f.naming? f.schema.decompositions "RelatedObjects" e.id).bind (f.referred? · "RelatingObject")

/-- The entities above one, up to the first that comes again. Each is another entity of the file,
which bounds the steps. -/
def above (f : ModelFile) : (fuel : Nat) → (visited : List Int) → FileEntity → List FileEntity
  | 0, _, _ => []
  | fuel + 1, visited, e =>
    match f.parent? e with
    | none => []
    | some up =>
      if visited.contains up.id then []
      else up :: f.above fuel (up.id :: visited) up

def containers (f : ModelFile) (e : FileEntity) : List FileEntity :=
  f.above f.entities.length [e.id] e

def placements (f : ModelFile) (className : String) : List (Int × Int) :=
  (f.ofClass "IfcProduct").filterMap fun p =>
    ((f.containers p).find? (·.className == className)).map fun c => (p.id, c.id)

def placed (f : ModelFile) (className : String) : OrderedMap Int (List Int) :=
  (f.placements className).foldl (fun m p => m.push p.2 p.1) []

def containment (f : ModelFile) : Containment where
  byStorey := f.placed "IfcBuildingStorey"
  byBuilding := f.placed "IfcBuilding"
  bySite := f.placed "IfcSite"
  bySpace := f.placed "IfcSpace"
  storeyElevations := (f.ofClass "IfcBuildingStorey").filterMap fun e =>
    (e.number? "Elevation").map fun x => (e.id, x)
  storeyOf := f.placements "IfcBuildingStorey"
  project := (f.ofClass "IfcProject").head?.map fun e => ⟨e.id, e.text? "Name"⟩

end ModelFile

end BuildingQuery
