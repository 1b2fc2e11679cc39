import BuildingQuery.Element.PropertyValue

/-! The record of one element of a building model, with all that is joined to it: its place, its
material, its classifications, its properties and quantities, and the elements it is related to. -/

namespace BuildingQuery

structure MaterialLayer where
  material : String
  thickness : Float

inductive MaterialKind where
  | single
  | layerSet
  | profileSet
  | constituentSet
deriving DecidableEq

structure ElementMaterial where
  name : String
  kind : MaterialKind
  layers : List MaterialLayer
  totalThickness : Option Float

structure Classification where
  system : String
  code : String
  name : String
  /-- The codes from the most general one down to the own one. -/
  path : List String

structure Location where
  project : Option String := none
  site : Option String := none
  building : Option String := none
  storey : Option String := none
  space : Option String := none
  storeyElevation : Option Float := none

structure Relations where
  containedIn : Option Int := none
  aggregatedBy : Option Int := none
  connectedTo : List Int := []
  hasOpenings : List Int := []
  fillsOpening : Option Int := none
  hasType : Option Int := none

structure Element where
  id : Int
  globalId : String
  typeName : String
  /-- Type names from the most general one down to the own one. -/
  ancestry : List String
  name : Option String
  description : Option String
  tag : Option String
  objectType : Option String
  predefinedType : Option String
  location : Location
  properties : OrderedMap String (OrderedMap String PropertyValue)
  quantities : OrderedMap String (OrderedMap String Float)
  material : Option ElementMaterial
  classifications : List Classification
  relations : Relations

open Decoder

def MaterialLayer.decoder : Decoder MaterialLayer := record fun fs =>
  mk <$> optional fs "material" text "Unknown"
    <*> optional fs "thickness" (float .plain) 0

def MaterialLayer.facet (l : MaterialLayer) : Facet := .record "MaterialLayer" [
  ("material", .text l.material),
  ("thickness", .float l.thickness)]

namespace MaterialKind

def name : MaterialKind → String
  | single => "single"
  | layerSet => "layerSet"
  | profileSet => "profileSet"
  | constituentSet => "constituentSet"

def named? (s : String) : Option MaterialKind :=
  [single, layerSet, profileSet, constituentSet].find? (·.name == s)

end MaterialKind

def ElementMaterial.decoder : Decoder ElementMaterial := record fun fs =>
  mk <$> required fs "name" text
    <*> optional fs "kind" (named MaterialKind.named?) .single
    <*> optional fs "layers" (tuple MaterialLayer.decoder) []
    <*> optional fs "total_thickness" (orNothing (float .plain)) none

def ElementMaterial.facet (m : ElementMaterial) : Facet := .record "ElementMaterial" [
  ("name", .text m.name),
  ("kind", .text m.kind.name),
  ("layers", .tuple (m.layers.map MaterialLayer.facet)),
  ("total_thickness", .ofOption .float m.totalThickness)]

def Classification.decoder : Decoder Classification := record fun fs =>
  mk <$> required fs "system" text
    <*> required fs "code" text
    <*> optional fs "name" text ""
    <*> optional fs "path" (tuple text) []

def Classification.facet (c : Classification) : Facet := .record "ElementClassification" [
  ("system", .text c.system),
  ("code", .text c.code),
  ("name", .text c.name),
  ("path", .texts c.path)]

def Location.decoder : Decoder Location := record fun fs =>
  let name (field : String) := optional fs field (orNothing text) none
  mk <$> name "project" <*> name "site" <*> name "building" <*> name "storey" <*> name "space"
    <*> optional fs "storey_elevation" (orNothing (float .plain)) none

def Location.facet (l : Location) : Facet := .record "SpatialLocation" [
  ("project", .ofOption .text l.project),
  ("site", .ofOption .text l.site),
  ("building", .ofOption .text l.building),
  ("storey", .ofOption .text l.storey),
  ("space", .ofOption .text l.space),
  ("storey_elevation", .ofOption .float l.storeyElevation)]

def Relations.decoder : Decoder Relations := record fun fs =>
  let one (field : String) := optional fs field (orNothing integer) none
  let many (field : String) := optional fs field (tuple integer) []
  mk <$> one "contained_in" <*> one "aggregated_by" <*> many "connected_to" <*> many "has_openings"
    <*> one "fills_opening" <*> one "has_type"

def Relations.facet (r : Relations) : Facet := .record "ElementRelationships" [
  ("contained_in", .ofOption .int r.containedIn),
  ("aggregated_by", .ofOption .int r.aggregatedBy),
  ("connected_to", .ints r.connectedTo),
  ("has_openings", .ints r.hasOpenings),
  ("fills_opening", .ofOption .int r.fillsOpening),
  ("has_type", .ofOption .int r.hasType)]

namespace Element

def decoder : Decoder Element := record fun fs =>
  let name (field : String) := optional fs field (orNothing text) none
  mk <$> required fs "express_id" integer
    <*> optional fs "global_id" text ""
    <*> required fs "ifc_class" text
    <*> optional fs "inheritance_chain" (tuple text) []
    <*> name "name" <*> name "description" <*> name "tag" <*> name "object_type"
    <*> name "predefined_type"
    <*> optional fs "spatial" Location.decoder {}
    <*> optional fs "properties" (map text (map text PropertyValue.decoder)) []
    <*> optional fs "quantities" (map text (map text (float .plain))) []
    <*> optional fs "material" (orNothing ElementMaterial.decoder) none
    <*> optional fs "classifications" (tuple Classification.decoder) []
    <*> optional fs "relationships" Relations.decoder {}

def fields (e : Element) : List (String × Facet) := [
  ("express_id", .int e.id),
  ("global_id", .text e.globalId),
  ("ifc_class", .text e.typeName),
  ("inheritance_chain", .texts e.ancestry),
  ("name", .ofOption .text e.name),
  ("description", .ofOption .text e.description),
  ("tag", .ofOption .text e.tag),
  ("object_type", .ofOption .text e.objectType),
  ("predefined_type", .ofOption .text e.predefinedType),
  ("spatial", e.location.facet),
  ("properties", .ofTexts (.ofTexts PropertyValue.facet) e.properties),
  ("quantities", .ofTexts (.ofTexts .float) e.quantities),
  ("material", .ofOption ElementMaterial.facet e.material),
  ("classifications", .tuple (e.classifications.map Classification.facet)),
  ("relationships", e.relations.facet)]

def facet (e : Element) : Facet := .record "UnifiedElement" e.fields

end Element

end BuildingQuery
