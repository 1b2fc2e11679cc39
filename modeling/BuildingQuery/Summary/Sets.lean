import BuildingQuery.Index
import BuildingQuery.Json.Writer
import BuildingQuery.Summary.Tally

/-! The property sets and quantity sets of an index, and the values in them. -/

namespace BuildingQuery

/-- A property with its most common values and how often each occurs. -/
structure PropertySummary where
  name : String
  /-- Nothing if the property has values of several kinds. -/
  kind : Option PropertyKind
  values : List (Value × Nat)
  frequency : Nat

structure PropertySetSummary where
  name : String
  appliesTo : List String
  elementCount : Nat
  properties : List PropertySummary

structure QuantitySummary where
  name : String
  least : Float
  greatest : Float
  frequency : Nat

structure QuantitySetSummary where
  name : String
  appliesTo : List String
  quantities : List QuantitySummary

def listedValues : Nat := 10

/-- Values count as the same where their JSON texts are. -/
def commonValues (vs : List Value) : List (Value × Nat) :=
  let text := Json.text none
  ((mostCommon (vs.map text)).take listedValues).filterMap fun (t, n) =>
    (vs.find? fun v => text v == t).map fun v => (v, n)

def PropertySummary.of (name : String) (ps : List PropertyValue) : PropertySummary where
  name := name
  kind :=
    match (ps.map (·.kind)).eraseDups with
    | [k] => some k
    | _ => none
  values := commonValues (ps.map (·.value))
  frequency := ps.length

def typeNames (es : List Element) : List String := Ordered.texts (es.map (·.typeName)).eraseDups

namespace Index

def setsWith {α : Type} (ix : Index) (sets : Element → OrderedMap String α) :
    OrderedMap String (List (Element × α)) :=
  grouped (ix.records.flatMap fun e => (sets e).map fun s => (s.1, (e, s.2)))

def propertySetSummaries (ix : Index) : List PropertySetSummary :=
  let all := (ix.setsWith Element.properties).map fun (name, members) =>
    let properties := (grouped (members.flatMap (·.2))).map fun p => PropertySummary.of p.1 p.2
    { name
      appliesTo := typeNames (members.map (·.1))
      elementCount := members.length
      properties := Ordered.byCount (·.frequency) properties }
  Ordered.byCount (·.elementCount) all

def quantitySetSummaries (ix : Index) : List QuantitySetSummary :=
  (ix.setsWith Element.quantities).map fun (name, members) =>
    let less (x y : Float) : Bool := x < y
    { name
      appliesTo := typeNames (members.map (·.1))
      quantities := (grouped (members.flatMap (·.2))).filterMap fun
        | (_, []) => none
        | (name, x :: xs) => some {
            name
            least := Ordered.least less x xs
            greatest := Ordered.greatest less x xs
            frequency := xs.length + 1 } }

end Index

def PropertySummary.facet (p : PropertySummary) : Facet := .record "PropertyInfo" [
  ("name", .text p.name),
  ("value_kind", .text ((p.kind.map PropertyKind.name).getD "mixed")),
  ("values", .tuple (p.values.map fun v => .tuple [.value v.1, .int v.2])),
  ("frequency", .int p.frequency)]

def PropertySetSummary.facet (s : PropertySetSummary) : Facet := .record "PropertySetInfo" [
  ("name", .text s.name),
  ("applies_to", .texts s.appliesTo),
  ("element_count", .int s.elementCount),
  ("properties", .tuple (s.properties.map PropertySummary.facet))]

def QuantitySummary.facet (q : QuantitySummary) : Facet := .record "QuantityInfo" [
  ("name", .text q.name),
  ("range", .tuple [.float q.least, .float q.greatest]),
  ("frequency", .int q.frequency)]

def QuantitySetSummary.facet (s : QuantitySetSummary) : Facet := .record "QuantitySetInfo" [
  ("name", .text s.name),
  ("applies_to", .texts s.appliesTo),
  ("quantities", .tuple (s.quantities.map QuantitySummary.facet))]

end BuildingQuery
