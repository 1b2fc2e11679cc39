import BuildingQuery.Index.Build
import BuildingQuery.ModelFile.Classifications
import BuildingQuery.ModelFile.Containment
import BuildingQuery.ModelFile.Materials
import BuildingQuery.ModelFile.Sets

/-! From a model file to an index. Only products become entities of the index. -/

namespace BuildingQuery

/-- The classes of relationships that matter, each with the attributes that name the two sides. -/
def relationshipSides : List (String × String × String) := [
  ("IfcRelDefinesByProperties", "RelatingPropertyDefinition", "RelatedObjects"),
  ("IfcRelDefinesByType", "RelatingType", "RelatedObjects"),
  ("IfcRelContainedInSpatialStructure", "RelatingStructure", "RelatedElements"),
  ("IfcRelAggregates", "RelatingObject", "RelatedObjects"),
  ("IfcRelConnectsElements", "RelatingElement", "RelatedElement"),
  ("IfcRelVoidsElement", "RelatingBuildingElement", "RelatedOpeningElement"),
  ("IfcRelFillsElement", "RelatingOpeningElement", "RelatedBuildingElement")]

namespace ModelFile

def relationships (f : ModelFile) : List Relationship :=
  relationshipSides.flatMap fun (className, relating, related) =>
    (f.ofClass className).flatMap fun e => (e.ids relating).map fun id =>
      ⟨Text.upper e.className, id, e.ids related⟩

def product (f : ModelFile) (e : FileEntity) : Entity where
  id := e.id
  typeName := e.className
  attributes := .byName <| (f.schema.attributes e.className).map fun name =>
    (name, (e.value name).flat)

def graph (f : ModelFile) : EntityGraph where
  entities := (f.ofClass "IfcProduct").map fun e => (e.id, f.product e)
  idsByType := (f.ofClass "IfcProduct").foldl (fun m e => m.push (Text.upper e.className) e.id) []

def names (f : ModelFile) : OrderedMap Int String :=
  (f.ofClass "IfcProduct").filterMap fun e =>
    match e.text? "Name" with
    | none | some "" => none
    | some name => some (e.id, name)

def input (f : ModelFile) : Except FileError Input := do
  let propertySets ← f.propertySets
  let quantitySets ← f.quantitySets
  let materials ← f.materials
  let classifications ← f.classifications
  return {
    graph := f.graph
    propertySets := some propertySets
    quantitySets := some quantitySets
    materials := some materials
    classifications := some classifications
    containment := some f.containment
    relationships := some f.relationships
    names := some f.names }

def index (f : ModelFile) : Except FileError Index :=
  (·.index f.schema.hierarchy) <$> f.input

end ModelFile

end BuildingQuery
