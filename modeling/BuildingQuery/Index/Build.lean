import BuildingQuery.Hierarchy.Products
import BuildingQuery.Index
import BuildingQuery.Index.Assignment
import BuildingQuery.Index.Joins
import BuildingQuery.Index.Placement

/-! Building an index: every entity that is a product becomes a record, in the order of the
entities. -/

namespace BuildingQuery

namespace Input

/-- An own name, or else one of the names given beside the entities. -/
def elementName (i : Input) (id : Int) (e : Entity) : Option String :=
  match e.name? with
  | none | some "" =>
    match i.names with
    | none | some [] => e.name?
    | some names => names.get? id
  | some name => some name

def sets (i : Input) : SetMaps := ⟨i.propertySets.getD [], i.quantitySets.getD []⟩

def placements (i : Input) : Placements :=
  (i.containment.map (·.placements i.graph)).getD {}

/-- The record of a product. Only elements proper have a tag and a predefined type. -/
def record (i : Input) (h : Hierarchy) (places : Placements) (joins : Joins) (id : Int)
    (e : Entity) : Element :=
  let typeName := h.resolve e.typeName
  let ancestry := h.chain typeName
  let isElement := ancestry.contains "IfcElement"
  let definitions := joins.definitionsOf id
  { id
    globalId := (e.text? 0 "GlobalId").getD ""
    typeName
    ancestry
    name := i.elementName id e
    description := e.text? 3 "Description"
    tag := if isElement then e.text? 7 "Tag" else none
    objectType := e.text? 4 "ObjectType"
    predefinedType := if isElement then e.enumerated? 8 "PredefinedType" else none
    location := places.location id
    properties := i.sets.properties definitions
    quantities := i.sets.quantities definitions
    material := i.materials.bind fun m => m.ofElement? id
    classifications := (i.classifications.map fun c => c.ofElement id).getD []
    relations := joins.relations (i.containment.bind fun c => c.storeyOf.get? id) id }

/-- Whether the ancestry of an entity's type has the class of products. -/
def isProduct (h : Hierarchy) (e : Entity) : Bool :=
  (h.chain (h.resolve e.typeName)).contains "IfcProduct"

/-- Takes in an entity; one that is no product is passed over. -/
def step (i : Input) (h : Hierarchy) (places : Placements) (joins : Joins) (ix : Index)
    (p : Int × Entity) : Index :=
  if isProduct h p.2 then
    let definitions := joins.definitionsOf p.1
    ix.add (i.record h places joins p.1 p.2) (i.sets.propertyNames definitions)
      (i.sets.quantityNames definitions)
  else ix

def index (i : Input) (h : Hierarchy) : Index :=
  i.graph.entities.foldl (i.step h i.placements (Joins.of (i.relationships.getD [])))
    (Index.empty h)

end Input

inductive CollectionError where
  | nothing
  | notMap (kind : String)
  | malformed (issues : List Issue)

def CollectionError.message : CollectionError → String
  | nothing => "An entity collection is required to build an index"
  | notMap kind => "Expected ParseResult or mapping of entities, got " ++ kind
  | malformed _ => "Malformed entity collection"

/-- An entity that is a map has its key for an id unless it brings its own. -/
def withKey (k : Key) : Value → Value
  | .map es =>
    let id : Value := match k with
      | .int n => .int n
      | .float x => .float x
      | .str s => .str s
    .map (OrderedMap.putAll [(.str "express_id", id)] es)
  | v => v

def EntityGraph.ofPlain : Value → Except CollectionError EntityGraph
  | .null => throw .nothing
  | .bool _ => throw (.notMap "bool")
  | .int _ => throw (.notMap "int")
  | .float _ => throw (.notMap "float")
  | .str _ => throw (.notMap "str")
  | .list _ => throw (.notMap "list")
  | .map es =>
    let entities := Value.map (es.map fun (k, v) => (k, withKey k v))
    match EntityGraph.decoder (.map [(.str "entities", entities)]) with
    | .ok g => return g
    | .wrong is => throw (.malformed is)

def Index.ofPlain (v : Value) : Except CollectionError Index := do
  let graph ← EntityGraph.ofPlain v
  return ({ graph } : Input).index .products

end BuildingQuery
