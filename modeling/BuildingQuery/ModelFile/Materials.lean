import BuildingQuery.Input.Materials
import BuildingQuery.ModelFile

/-! The materials of a model file. -/

namespace BuildingQuery

namespace FileEntity

/-- The thickness of a layer; none counts as zero. -/
def thickness (e : FileEntity) : Float :=
  match e.number? "LayerThickness" with
  | none => 0
  | some x => if x == 0 then 0 else x

/-- What an association with a material assigns: a layer set, or a single material. -/
def assigned? (e : FileEntity) : Option (Int × String) :=
  match e.className with
  | "IfcMaterialLayerSetUsage" => (e.reference? "ForLayerSet").map fun id => (id, "layer_set")
  | "IfcMaterialLayerSet" => some (e.id, "layer_set")
  | "IfcMaterial" => some (e.id, "single")
  | _ => none

def material (e : FileEntity) : Material where
  name := e.text "Name"
  description := e.text? "Description"

end FileEntity

namespace ModelFile

def layer (f : ModelFile) (e : FileEntity) : LayerRecord where
  name := e.text? "Name"
  thickness := e.thickness
  material := (f.referred? e "Material").bind (·.text? "Name")

def layerSet (f : ModelFile) (e : FileEntity) : LayerSet where
  name := e.text? "LayerSetName"
  layers := e.ids "MaterialLayers"
  totalThickness :=
    some <| ((e.ids "MaterialLayers").filterMap f.entity?).foldl (fun x l => x + l.thickness) 0

def assignments (f : ModelFile) (e : FileEntity) : Except FileError (List MaterialAssignment) :=
  match f.referred? e "RelatingMaterial" with
  | none => throw .openAssociation
  | some m =>
    match m.assigned? with
    | none => return []
    | some (material, typeName) =>
      return (e.ids "RelatedObjects").map fun element => { element, material, typeName }

def materials (f : ModelFile) : Except FileError Materials := do
  let assignments ← (f.ofClass "IfcRelAssociatesMaterial").mapM f.assignments
  return {
    materials := (f.ofClass "IfcMaterial").map fun e => (e.id, e.material)
    layers := (f.ofClass "IfcMaterialLayer").map fun e => (e.id, f.layer e)
    layerSets := (f.ofClass "IfcMaterialLayerSet").map fun e => (e.id, f.layerSet e)
    assignments := assignments.flatten }

end ModelFile

end BuildingQuery
