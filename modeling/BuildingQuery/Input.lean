import BuildingQuery.Input.Classifications
import BuildingQuery.Input.Containment
import BuildingQuery.Input.Graph
import BuildingQuery.Input.Materials
import BuildingQuery.Input.Sets

/-! All that an index is built from. Only the entities must be there; what is missing leaves its
part of the records empty. -/

namespace BuildingQuery

open Decoder

structure Relationship where
  typeName : String
  relating : Int
  related : List Int

structure Input where
  graph : EntityGraph
  propertySets : Option (OrderedMap Int PropertySet) := none
  quantitySets : Option (OrderedMap Int QuantitySet) := none
  materials : Option Materials := none
  classifications : Option Classifications := none
  containment : Option Containment := none
  relationships : Option (List Relationship) := none
  names : Option (OrderedMap Int String) := none

def Relationship.decoder : Decoder Relationship := record fun fs =>
  mk <$> required fs "type" text
    <*> required fs "relating_object" integer
    <*> optional fs "related_objects" (list integer) []

def Relationship.facet (r : Relationship) : Facet := .record "RelationshipData" [
  ("type", .text r.typeName),
  ("relating_object", .int r.relating),
  ("related_objects", .ints r.related)]

namespace Input

def decoder : Decoder Input := record fun fs =>
  let maybe {α : Type} (field : String) (d : Decoder α) := optional fs field (orNothing d) none
  mk <$> required fs "parse_result" EntityGraph.decoder
    <*> maybe "property_sets" (map integer PropertySet.decoder)
    <*> maybe "quantity_sets" (map integer QuantitySet.decoder)
    <*> maybe "materials" Materials.decoder
    <*> maybe "classifications" Classifications.decoder
    <*> maybe "spatial_hierarchy" Containment.decoder
    <*> maybe "relationships" (list Relationship.decoder)
    <*> maybe "entity_names" (map integer text)

def facet (i : Input) : Facet := .record "IndexInputs" [
  ("parse_result", i.graph.facet),
  ("property_sets", .ofOption (.ofInts PropertySet.facet) i.propertySets),
  ("quantity_sets", .ofOption (.ofInts QuantitySet.facet) i.quantitySets),
  ("materials", .ofOption Materials.facet i.materials),
  ("classifications", .ofOption Classifications.facet i.classifications),
  ("spatial_hierarchy", .ofOption Containment.facet i.containment),
  ("relationships", .ofOption (fun rs => .tuple (rs.map Relationship.facet)) i.relationships),
  ("entity_names", .ofOption (.ofInts .text) i.names)]

end Input

end BuildingQuery
