import BuildingQuery.Decode
import BuildingQuery.Facet

/-! The spatial containers of a model and the elements in each of them. -/

namespace BuildingQuery

open Decoder

structure ProjectReference where
  id : Int
  name : Option String

structure Containment where
  byStorey : OrderedMap Int (List Int) := []
  byBuilding : OrderedMap Int (List Int) := []
  bySite : OrderedMap Int (List Int) := []
  bySpace : OrderedMap Int (List Int) := []
  storeyElevations : OrderedMap Int Float := []
  storeyOf : OrderedMap Int Int := []
  project : Option ProjectReference := none

def ProjectReference.decoder : Decoder ProjectReference := record fun fs =>
  mk <$> required fs "express_id" integer
    <*> optional fs "name" (orNothing text) none

def ProjectReference.facet (p : ProjectReference) : Facet := .record "ProjectRef" [
  ("express_id", .int p.id),
  ("name", .ofOption .text p.name)]

def Containment.decoder : Decoder Containment := record fun fs =>
  let members (field : String) := optional fs field (map integer (list integer)) []
  mk <$> members "by_storey" <*> members "by_building" <*> members "by_site" <*> members "by_space"
    <*> optional fs "storey_elevations" (map integer (float .plain)) []
    <*> optional fs "element_to_storey" (map integer integer) []
    <*> optional fs "project" (orNothing ProjectReference.decoder) none

def Containment.facet (c : Containment) : Facet := .record "SpatialHierarchy" [
  ("by_storey", .ofInts .ints c.byStorey),
  ("by_building", .ofInts .ints c.byBuilding),
  ("by_site", .ofInts .ints c.bySite),
  ("by_space", .ofInts .ints c.bySpace),
  ("storey_elevations", .ofInts .float c.storeyElevations),
  ("element_to_storey", .ofInts .int c.storeyOf),
  ("project", .ofOption ProjectReference.facet c.project)]

end BuildingQuery
