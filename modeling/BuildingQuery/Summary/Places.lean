import BuildingQuery.Index
import BuildingQuery.Summary.Tally

/-! The projects, sites, buildings, storeys and spaces that the elements of an index name. -/

namespace BuildingQuery

structure StoreySummary where
  name : String
  /-- That of the first element on the storey. -/
  elevation : Float
  elementCount : Nat

structure BuildingSummary where
  name : String
  storeys : List StoreySummary
  elementCount : Nat

structure SpaceSummary where
  name : String
  storey : Option String
  area : Option Float

structure PlacesSummary where
  projects : List String
  sites : List String
  buildings : List BuildingSummary
  storeys : List StoreySummary
  spaces : List SpaceSummary

/-- A name that is there and not empty, as a list. -/
def givenName : Option String → List String
  | none | some "" => []
  | some s => [s]

/-- No elevation stands for zero, and zero has no sign. -/
def shownElevation : Option Float → Float
  | none => 0
  | some x => if x == 0 then 0 else x

namespace Index

/-- The storeys with elements on them, the lowest first. -/
def storeySummaries (ix : Index) : List StoreySummary :=
  let onStoreys := grouped (ix.records.flatMap fun e =>
    (givenName e.location.storey).map fun s => (s, e))
  let storeys := onStoreys.map fun (name, es) =>
    { name
      elevation := shownElevation (es.head?.bind fun e => e.location.storeyElevation)
      elementCount := es.length : StoreySummary }
  Ordered.sort (fun s t => decide (s.elevation < t.elevation)) storeys

def buildingSummaries (ix : Index) : List BuildingSummary :=
  let inBuildings := grouped (ix.records.flatMap fun e =>
    (givenName e.location.building).map fun b => (b, givenName e.location.storey))
  inBuildings.map fun (name, storeys) =>
    let own := ix.storeySummaries.filter fun s => storeys.flatten.contains s.name
    ⟨name, own, own.foldl (fun n s => n + s.elementCount) 0⟩

def spaceSummaries (ix : Index) : List SpaceSummary :=
  (ix.records.filter (·.typeName == "IfcSpace")).map fun e =>
    { name := (givenName e.name).headD "Unnamed Space"
      storey := e.location.storey
      area := e.quantities.findSome? fun s => OrderedMap.get? s.2 "NetFloorArea" }

def placesSummary (ix : Index) : PlacesSummary where
  projects := (ix.records.flatMap fun e => givenName e.location.project).eraseDups
  sites := (ix.records.flatMap fun e => givenName e.location.site).eraseDups
  buildings := ix.buildingSummaries
  storeys := ix.storeySummaries
  spaces := ix.spaceSummaries

end Index

def StoreySummary.facet (s : StoreySummary) : Facet := .record "StoreyInfo" [
  ("name", .text s.name),
  ("elevation", .float s.elevation),
  ("element_count", .int s.elementCount)]

def BuildingSummary.facet (b : BuildingSummary) : Facet := .record "BuildingInfo" [
  ("name", .text b.name),
  ("storeys", .tuple (b.storeys.map StoreySummary.facet)),
  ("element_count", .int b.elementCount)]

def SpaceSummary.facet (s : SpaceSummary) : Facet := .record "SpaceInfo" [
  ("name", .text s.name),
  ("storey", .ofOption .text s.storey),
  ("area", .ofOption .float s.area)]

def PlacesSummary.facet (p : PlacesSummary) : Facet := .record "SpatialSummary" [
  ("projects", .texts p.projects),
  ("sites", .texts p.sites),
  ("buildings", .tuple (p.buildings.map BuildingSummary.facet)),
  ("storeys", .tuple (p.storeys.map StoreySummary.facet)),
  ("spaces", .tuple (p.spaces.map SpaceSummary.facet))]

end BuildingQuery
