import BuildingQuery.Decode
import BuildingQuery.Facet
import BuildingQuery.Text.Case

/-! The raw entities of a model file. -/

namespace BuildingQuery

open Decoder

/-- Attributes by their position, or by name. -/
inductive Attributes where
  | positional (values : List Value)
  | byName (values : OrderedMap String Value)

structure Entity where
  id : Int
  typeName : String
  attributes : Attributes

/-- Entities under their ids, and perhaps the ids of each type. -/
structure EntityGraph where
  entities : OrderedMap Int Entity
  idsByType : OrderedMap String (List Int)

/-- A list, or a map with text keys; both ways to read are told where neither fits. -/
def Attributes.decoder : Decoder Attributes
  | .list vs => .ok (.positional vs)
  | v =>
    match map text .ok v with
    | .ok m => .ok (.byName m)
    | .wrong is =>
      .wrong (⟨[.name "list[any]"], .notList⟩ ::
        is.map fun i => { i with path := .name "dict[str,any]" :: i.path })

def Attributes.facet : Attributes → Facet
  | .positional vs => .value (.list vs)
  | .byName m => .ofTexts .value m

def Entity.decoder : Decoder Entity := record fun fs =>
  mk <$> required fs "express_id" integer
    <*> required fs "type" text
    <*> optional fs "attributes" Attributes.decoder (.positional [])

def Entity.facet (e : Entity) : Facet := .record "RawEntity" [
  ("express_id", .int e.id),
  ("type", .text e.typeName),
  ("attributes", e.attributes.facet)]

namespace Entity

/-- An attribute by its name where names are given, else by its position. -/
def attribute? (e : Entity) (position : Nat) (name : String) : Option Value :=
  match e.attributes with
  | .positional vs => vs[position]?
  | .byName m => m.get? name

/-- An attribute that is a text. -/
def text? (e : Entity) (position : Nat) (name : String) : Option String :=
  match e.attribute? position name with
  | some (.str s) => some s
  | _ => none

def name? (e : Entity) : Option String := e.text? 2 "Name"

/-- A member of an enumeration, without the points that enclose it in model files. -/
def enumerated? (e : Entity) (position : Nat) (name : String) : Option String :=
  (e.text? position name).bind fun s =>
    match Text.trimWith (· == '.') s.toList with
    | [] => none
    | cs => some (String.ofList cs)

end Entity

namespace EntityGraph

def decoder : Decoder EntityGraph := record fun fs =>
  mk <$> required fs "entities" (map integer Entity.decoder)
    <*> optional fs "entities_by_type" (map text (list integer)) []

def facet (g : EntityGraph) : Facet := .record "ParseResult" [
  ("entities", .ofInts Entity.facet g.entities),
  ("entities_by_type", .ofTexts .ints g.idsByType)]

/-- The ids of the entities of a type, in any case. Where ids by type are given, only they are
asked: the first type that fits. -/
def idsOfType (g : EntityGraph) (typeName : String) : List Int :=
  let wanted := Text.upper typeName
  if g.idsByType.isEmpty then
    g.entities.filterMap fun (id, e) =>
      if Text.upper e.typeName == wanted then some id else none
  else ((g.idsByType.find? fun e => Text.upper e.1 == wanted).map (·.2)).getD []

end EntityGraph

end BuildingQuery
