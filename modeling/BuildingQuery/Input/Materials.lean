import BuildingQuery.Decode
import BuildingQuery.Facet

/-! The materials of a model file, and what they are assigned to. -/

namespace BuildingQuery

open Decoder

structure Material where
  name : String
  description : Option String

structure LayerRecord where
  name : Option String
  thickness : Float
  material : Option String

structure LayerSet where
  name : Option String
  /-- Ids of layers. -/
  layers : List Int
  totalThickness : Option Float

structure MaterialAssignment where
  element : Int
  material : Int
  typeName : String

structure Materials where
  materials : OrderedMap Int Material
  layers : OrderedMap Int LayerRecord
  layerSets : OrderedMap Int LayerSet
  assignments : List MaterialAssignment

def Material.decoder : Decoder Material := record fun fs =>
  mk <$> required fs "name" text
    <*> optional fs "description" (orNothing text) none

def Material.facet (m : Material) : Facet := .record "MaterialData" [
  ("name", .text m.name),
  ("description", .ofOption .text m.description)]

def LayerRecord.decoder : Decoder LayerRecord := record fun fs =>
  mk <$> optional fs "name" (orNothing text) none
    <*> optional fs "thickness" (float .plain) 0
    <*> optional fs "material" (orNothing text) none

def LayerRecord.facet (l : LayerRecord) : Facet := .record "MaterialLayerData" [
  ("name", .ofOption .text l.name),
  ("thickness", .float l.thickness),
  ("material", .ofOption .text l.material)]

def LayerSet.decoder : Decoder LayerSet := record fun fs =>
  mk <$> optional fs "name" (orNothing text) none
    <*> optional fs "layers" (list integer) []
    <*> optional fs "total_thickness" (orNothing (float .plain)) none

def LayerSet.facet (s : LayerSet) : Facet := .record "MaterialLayerSetData" [
  ("name", .ofOption .text s.name),
  ("layers", .ints s.layers),
  ("total_thickness", .ofOption .float s.totalThickness)]

def MaterialAssignment.decoder : Decoder MaterialAssignment := record fun fs =>
  mk <$> required fs "element_id" integer
    <*> required fs "material_id" integer
    <*> optional fs "type" text "single"

def MaterialAssignment.facet (a : MaterialAssignment) : Facet := .record "MaterialAssociation" [
  ("element_id", .int a.element),
  ("material_id", .int a.material),
  ("type", .text a.typeName)]

def Materials.decoder : Decoder Materials := record fun fs =>
  mk <$> optional fs "materials" (map integer Material.decoder) []
    <*> optional fs "material_layers" (map integer LayerRecord.decoder) []
    <*> optional fs "material_layer_sets" (map integer LayerSet.decoder) []
    <*> optional fs "associations" (list MaterialAssignment.decoder) []

def Materials.facet (m : Materials) : Facet := .record "MaterialsData" [
  ("materials", .ofInts Material.facet m.materials),
  ("material_layers", .ofInts LayerRecord.facet m.layers),
  ("material_layer_sets", .ofInts LayerSet.facet m.layerSets),
  ("associations", .tuple (m.assignments.map MaterialAssignment.facet))]

end BuildingQuery
