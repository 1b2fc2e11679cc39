import BuildingQuery.Comparison
import BuildingQuery.Input.Graph
import BuildingQuery.Input.Sets

/-! Property sets and quantity sets as they stand among the raw entities of a model file. -/

namespace BuildingQuery

/-- The value of a wrapped value. -/
def unwrapped (v : Value) : Value := (v.field? "value").getD v

/-- The ids in a list of references; a truth value counts as a number. What is false stands for an
empty list, a text holds no ids, and a map holds its keys. -/
def references : Value → Except Fault (List Int)
  | .null | .bool false | .str _ => return []
  | .int n => if n = 0 then return [] else throw .mistyped
  | .float x => if x == 0 then return [] else throw .mistyped
  | .bool true => throw .mistyped
  | .list vs => return vs.filterMap fun
    | .int n => some n
    | .bool b => some (if b then 1 else 0)
    | _ => none
  | .map es => return es.filterMap fun e =>
    match e.1 with
    | .int n => some n
    | _ => none

namespace EntityGraph

/-- The entities that an attribute refers to. -/
def referenced (g : EntityGraph) (e : Entity) (position : Nat) (name : String) :
    Except Fault (List Entity) := do
  return (← references ((e.attribute? position name).getD .null)).filterMap g.entities.get?

/-- The entities of a type that the graph has, under their ids. -/
def ofType (g : EntityGraph) (typeName : String) : List (Int × Entity) :=
  (g.idsOfType typeName).filterMap fun id => (g.entities.get? id).map fun e => (id, e)

end EntityGraph

/-- The name of a property or quantity, which must not be empty. -/
def Entity.memberName? (e : Entity) : Option String :=
  match e.text? 0 "Name" with
  | none | some "" => none
  | some s => some s

/-- The name of a property set or quantity set. -/
def Entity.setName (e : Entity) : String :=
  match e.name? with
  | none | some "" => "Unnamed"
  | some s => s

/-- The value of a quantity: the fourth attribute, or the first whose name ends like one. -/
def Entity.quantityValue (e : Entity) : Value :=
  match e.attributes with
  | .positional vs => vs[3]?.getD .null
  | .byName m =>
    ((m.find? fun a => "Value".toList.isSuffixOf a.1.toList).map (·.2)).getD .null

/-- The quantity that an entity stands for. Its value is read even where it has no name. -/
def Entity.quantity? (e : Entity) : Except Fault (Option (String × Float)) := do
  let x ← Comparison.number? (unwrapped e.quantityValue)
  return e.memberName?.bind fun name => x.map fun x => (name, x)

def Entity.property? (e : Entity) : Option (String × PropertyValue) :=
  e.memberName?.map fun name =>
    (name, .of (unwrapped ((e.attribute? 2 "NominalValue").getD .null)) none)

namespace EntityGraph

def propertySets (g : EntityGraph) : Except Fault (OrderedMap Int PropertySet) := do
  let sets ← (g.ofType "IFCPROPERTYSET").mapM fun (id, e) => do
    let members ← g.referenced e 4 "HasProperties"
    return (id, ⟨e.setName, OrderedMap.ofList (members.filterMap Entity.property?)⟩)
  return OrderedMap.ofList sets

def quantitySets (g : EntityGraph) : Except Fault (OrderedMap Int QuantitySet) := do
  let sets ← (g.ofType "IFCELEMENTQUANTITY").mapM fun (key, e) => do
    let members ← (← g.referenced e 5 "Quantities").mapM Entity.quantity?
    return (key, ⟨e.setName, OrderedMap.ofList (members.filterMap id)⟩)
  return OrderedMap.ofList sets

end EntityGraph

end BuildingQuery
