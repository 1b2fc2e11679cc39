import BuildingQuery.Element
import BuildingQuery.Input
import BuildingQuery.Text.Case

/-! What relationships say of an element. Relationships are taken in one after the other, each kind of
them into a table of its own, and everything joined to an element is read off the tables. -/

namespace BuildingQuery

/-- The tables, by what a relationship in them means. -/
inductive Join where
  | definition
  | type
  | containment
  | aggregation
  | connection
  | opening
  | filling
deriving DecidableEq

/-- The table that a kind of relationship fills; most kinds fill none. -/
def Join.ofType? (typeName : String) : Option Join :=
  match Text.upper typeName with
  | "IFCRELDEFINESBYPROPERTIES" => some .definition
  | "IFCRELDEFINESBYTYPE" => some .type
  | "IFCRELCONTAINEDINSPATIALSTRUCTURE" => some .containment
  | "IFCRELAGGREGATES" => some .aggregation
  | "IFCRELCONNECTSELEMENTS" | "IFCRELCONNECTSPATHELEMENTS" => some .connection
  | "IFCRELVOIDSELEMENT" => some .opening
  | "IFCRELFILLSELEMENT" => some .filling
  | _ => none

/-- The tables have an entry for each element that a relationship names. -/
structure Joins where
  definitions : OrderedMap Int (List Int) := []
  types : OrderedMap Int Int := []
  containments : OrderedMap Int Int := []
  aggregations : OrderedMap Int Int := []
  connections : OrderedMap Int (List Int) := []
  openings : OrderedMap Int (List Int) := []
  fillings : OrderedMap Int Int := []
deriving DecidableEq

namespace Joins

/-- Takes in a relationship. Connections count both ways. Of several types, containers, wholes or
openings filled the last counts. -/
def add (j : Joins) (r : Relationship) : Joins :=
  match Join.ofType? r.typeName with
  | some .definition => { j with definitions := j.definitions.pushAll r.related r.relating }
  | some .type => { j with types := j.types.putEach r.related r.relating }
  | some .containment => { j with containments := j.containments.putEach r.related r.relating }
  | some .aggregation => { j with aggregations := j.aggregations.putEach r.related r.relating }
  | some .connection =>
    { j with
      connections := r.related.foldl (fun m id => (m.push r.relating id).push id r.relating)
        j.connections }
  | some .opening =>
    { j with
      openings := j.openings.put r.relating ((j.openings.get? r.relating).getD [] ++ r.related) }
  | some .filling => { j with fillings := j.fillings.putEach r.related r.relating }
  | none => j

def of (rs : List Relationship) : Joins := rs.foldl add {}

/-- The ids of the definitions of an element's properties and quantities. -/
def definitionsOf (j : Joins) (id : Int) : List Int := (j.definitions.get? id).getD []

/-- Without a containment the storey it is assigned to contains an element. -/
def relations (j : Joins) (storey : Option Int) (id : Int) : Relations where
  containedIn := (j.containments.get? id).or storey
  aggregatedBy := j.aggregations.get? id
  connectedTo := (j.connections.get? id).getD []
  hasOpenings := (j.openings.get? id).getD []
  fillsOpening := j.fillings.get? id
  hasType := j.types.get? id

end Joins

/-- Property sets and quantity sets by the id of their definition. A definition in both maps is a
property set. -/
structure SetMaps where
  propertySets : OrderedMap Int PropertySet
  quantitySets : OrderedMap Int QuantitySet

/-- The members of a set are added to those of the sets of the same name. -/
def mergeInto {α : Type} (groups : OrderedMap String (OrderedMap String α)) (name : String)
    (members : OrderedMap String α) : OrderedMap String (OrderedMap String α) :=
  groups.put name (((groups.get? name).getD []).putAll members)

def SetMaps.properties (m : SetMaps) (definitions : List Int) :
    OrderedMap String (OrderedMap String PropertyValue) :=
  (definitions.filterMap m.propertySets.get?).foldl (fun g s => mergeInto g s.name s.properties) []

def SetMaps.quantities (m : SetMaps) (definitions : List Int) :
    OrderedMap String (OrderedMap String Float) :=
  ((definitions.filter fun d => !m.propertySets.contains d).filterMap m.quantitySets.get?).foldl
    (fun g s => mergeInto g s.name s.quantities) []

def SetMaps.propertyNames (m : SetMaps) (definitions : List Int) : List String :=
  (definitions.filterMap m.propertySets.get?).map (·.name)

def SetMaps.quantityNames (m : SetMaps) (definitions : List Int) : List String :=
  ((definitions.filter fun d => !m.propertySets.contains d).filterMap m.quantitySets.get?).map
    (·.name)

end BuildingQuery
