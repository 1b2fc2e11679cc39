import BuildingQuery.Summary.Places
import BuildingQuery.Summary.Sets

/-! What a model contains that a rule can name, with counts. -/

namespace BuildingQuery

structure TypeSummary where
  name : String
  count : Nat
  /-- Whether elements of a subtype are in the index. -/
  hasSubtypes : Bool

structure MaterialSummary where
  name : String
  kind : MaterialKind
  elementCount : Nat
  /-- The least and the greatest total thickness. -/
  thickness : Option (Float × Float)

structure CodeSummary where
  code : String
  name : String
  elementCount : Nat

structure SystemSummary where
  system : String
  codes : List CodeSummary
  elementCount : Nat

structure Summary where
  total : Nat
  types : List TypeSummary
  propertySets : List PropertySetSummary
  places : PlacesSummary
  materials : List MaterialSummary
  systems : List SystemSummary
  quantitySets : List QuantitySetSummary

namespace Index

def typeSummaries (ix : Index) : List TypeSummary :=
  let above := ix.records.flatMap fun e => e.ancestry.dropLast
  (mostCommon (ix.records.map (·.typeName))).map fun (name, count) =>
    ⟨name, count, above.contains name⟩

/-- The range of the thicknesses that are given and not zero. -/
def thicknessRange (ms : List ElementMaterial) : Option (Float × Float) :=
  let less (x y : Float) : Bool := x < y
  match (ms.filterMap (·.totalThickness)).filter fun x => !(x == 0) with
  | [] => none
  | x :: xs => some (Ordered.least less x xs, Ordered.greatest less x xs)

def materialSummaries (ix : Index) : List MaterialSummary :=
  let byName := grouped (ix.records.flatMap fun e => e.material.toList.map fun m => (m.name, m))
  Ordered.byCount (·.elementCount) <| byName.filterMap fun
    | (_, []) => none
    | (name, m :: ms) => some ⟨name, m.kind, ms.length + 1, thicknessRange (m :: ms)⟩

/-- Every mention of a system counts, with the name that its code has first. -/
def systemSummaries (ix : Index) : List SystemSummary :=
  let bySystem := grouped (ix.records.flatMap fun e =>
    e.classifications.map fun c => (c.system, c))
  Ordered.byCount (·.elementCount) <| bySystem.map fun (system, cs) =>
    let byCode := grouped (cs.map fun c => (c.code, c.name))
    let codes := byCode.map fun (code, names) => ⟨code, names.headD "", names.length⟩
    ⟨system, codes.mergeSort fun (a b : CodeSummary) => a.code ≤ b.code, cs.length⟩

def toSummary (ix : Index) : Summary where
  total := ix.size
  types := ix.typeSummaries
  propertySets := ix.propertySetSummaries
  places := ix.placesSummary
  materials := ix.materialSummaries
  systems := ix.systemSummaries
  quantitySets := ix.quantitySetSummaries

end Index

namespace Summary

def typesByCount (s : Summary) : List (String × Nat) := s.types.map fun t => (t.name, t.count)

/-- Set, property and number of elements, the most frequent first. -/
def propertiesByFrequency (s : Summary) : List (String × String × Nat) :=
  Ordered.byCount (·.2.2) <| s.propertySets.flatMap fun set =>
    set.properties.map fun p => (set.name, p.name, p.frequency)

def storeysByElevation (s : Summary) : List (String × Float) :=
  s.places.storeys.map fun t => (t.name, t.elevation)

end Summary

def TypeSummary.facet (t : TypeSummary) : Facet := .record "EntityTypeInfo" [
  ("type", .text t.name),
  ("count", .int t.count),
  ("has_subtypes", .value (.bool t.hasSubtypes))]

def MaterialSummary.facet (m : MaterialSummary) : Facet := .record "MaterialInfo" [
  ("name", .text m.name),
  ("kind", .text m.kind.name),
  ("element_count", .int m.elementCount),
  ("thickness_range", .ofOption (fun r => .tuple [.float r.1, .float r.2]) m.thickness)]

def CodeSummary.facet (c : CodeSummary) : Facet := .record "ClassificationCodeInfo" [
  ("code", .text c.code),
  ("name", .text c.name),
  ("element_count", .int c.elementCount)]

def SystemSummary.facet (s : SystemSummary) : Facet := .record "ClassificationSystemInfo" [
  ("system", .text s.system),
  ("codes", .tuple (s.codes.map CodeSummary.facet)),
  ("element_count", .int s.elementCount)]

def Summary.facet (s : Summary) : Facet := .record "ModelSchema" [
  ("total_elements", .int s.total),
  ("entity_types", .tuple (s.types.map TypeSummary.facet)),
  ("property_sets", .tuple (s.propertySets.map PropertySetSummary.facet)),
  ("spatial", s.places.facet),
  ("materials", .tuple (s.materials.map MaterialSummary.facet)),
  ("classifications", .tuple (s.systems.map SystemSummary.facet)),
  ("quantity_sets", .tuple (s.quantitySets.map QuantitySetSummary.facet))]

end BuildingQuery
