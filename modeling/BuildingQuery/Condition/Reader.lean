import BuildingQuery.Condition
import BuildingQuery.Decode
import BuildingQuery.Json.Reader

/-! Reading conditions and rules from documents. Field names are spelled in camel case or with
underscores. The kind of a condition stands in the path of whatever is wrong with it; a kind that is
not known is no fault. -/

namespace BuildingQuery

open Decoder

namespace TypeTest

def namesDecoder : Decoder TypeNames
  | .str s => .ok (.one s)
  | v =>
    match tuple text v with
    | .ok ss => .ok (.many ss)
    | .wrong is =>
      .wrong (⟨[.name "str"], .notText⟩ ::
        is.map fun i => { i with path := .name "tuple[str, ...]" :: i.path })

def ofFields (fs : Fields) : Checked TypeTest :=
  mk <$> required fs ⟨"entityType", "entity_type"⟩ namesDecoder
    <*> optional fs ⟨"includeSubtypes", "include_subtypes"⟩ bool true
    <*> optional fs ⟨"predefinedType", "predefined_type"⟩
      (fun v => (orNothing text v).map (Option.map .str)) none

end TypeTest

/-- The upper end of a range. -/
def upperField (o : Origin) (fs : Fields) : Checked (Option Float) :=
  optional fs ⟨"valueTo", "value_to"⟩ (orNothing (float o)) none

def PropertyTest.ofFields (o : Origin) (fs : Fields) : Checked PropertyTest :=
  mk <$> optional fs ⟨"propertySet", "property_set"⟩ text "*"
    <*> required fs ⟨"propertyName", "property_name"⟩ text
    <*> required fs "operator" (named Comparison.named?)
    <*> optional fs "value" scalar .null
    <*> upperField o fs

def ElevationTest.decoder (o : Origin) : Decoder ElevationTest := record fun fs =>
  mk <$> required fs "operator" (named NumberComparison.named?)
    <*> required fs "value" (float o)
    <*> upperField o fs

def SpatialTest.ofFields (o : Origin) (fs : Fields) : Checked SpatialTest :=
  mk <$> required fs "level" (named SpatialLevel.named?)
    <*> optional fs "name" (orNothing text) none
    <*> optional fs "elevation" (orNothing (ElevationTest.decoder o)) none

def MaterialTest.ofFields (o : Origin) (fs : Fields) : Checked MaterialTest :=
  mk <$> optional fs "name" (orNothing text) none
    <*> optional fs ⟨"minThickness", "min_thickness"⟩ (orNothing (float o)) none
    <*> optional fs ⟨"maxThickness", "max_thickness"⟩ (orNothing (float o)) none

def ClassificationTest.ofFields (fs : Fields) : Checked ClassificationTest :=
  mk <$> optional fs "system" (orNothing text) none
    <*> optional fs "code" (orNothing text) none
    <*> optional fs "name" (orNothing text) none

def AttributeTest.ofFields (fs : Fields) : Checked AttributeTest :=
  mk <$> required fs "attribute" (named TextAttribute.named?)
    <*> required fs "operator" (named TextComparison.named?)
    <*> required fs "value" text

def QuantityTest.ofFields (o : Origin) (fs : Fields) : Checked QuantityTest :=
  mk <$> optional fs ⟨"quantitySet", "quantity_set"⟩ (orNothing text) none
    <*> required fs ⟨"quantityName", "quantity_name"⟩ text
    <*> required fs "operator" (named NumberComparison.named?)
    <*> required fs "value" (float o)
    <*> upperField o fs

def RelationTarget.decoder : Decoder RelationTarget := record fun fs =>
  mk <$> optional fs "type" (orNothing text) none
    <*> optional fs "name" (orNothing text) none

def RelationTest.ofFields (fs : Fields) : Checked RelationTest :=
  mk <$> required fs "relation" (named RelationKind.named?)
    <*> optional fs "target" (orNothing RelationTarget.decoder) none

/-- The kinds of conditions as they are told apart in documents. -/
inductive ConditionTag where
  | type
  | property
  | spatial
  | material
  | classification
  | attributeText
  | quantity
  | relation
  | group (kind : GroupKind)
  | unknown
deriving DecidableEq

namespace ConditionTag

/-- The name in the path of an issue. -/
def name : ConditionTag → String
  | type => "entityType"
  | property => "property"
  | spatial => "spatial"
  | material => "material"
  | classification => "classification"
  | attributeText => "attribute"
  | quantity => "quantity"
  | relation => "relationship"
  | group _ => "composite"
  | unknown => "unknown"

def single : List ConditionTag :=
  [type, property, spatial, material, classification, attributeText, quantity, relation]

def ofName (s : String) : ConditionTag :=
  match GroupKind.named? s with
  | some k => group k
  | none => (single.find? (·.name == s)).getD unknown

def ofFields (fs : Fields) : ConditionTag :=
  match OrderedMap.get? fs (.str "type") with
  | some (.str s) => ofName s
  | _ => unknown

end ConditionTag

/-- The fields that belong to no kind; their keys must be texts. -/
def extraFields (fs : Fields) : Checked Fields :=
  let bad := fs.filterMap fun e => match e.1 with
    | .str _ => none
    | k => some (Issue.mk [k.step] .badKey)
  if bad.isEmpty then .ok (fs.filter fun e => e.1 != .str "type") else .wrong bad

def unknownOfFields (fs : Fields) : Checked Condition :=
  Condition.unknown <$> required fs "type" text <*> extraFields fs

namespace Condition

mutual

def read (o : Origin) : Value → Checked Condition
  | .map fs =>
    let tag := ConditionTag.ofFields fs
    let condition := match tag with
      | .type => type <$> TypeTest.ofFields fs
      | .property => property <$> PropertyTest.ofFields o fs
      | .spatial => spatial <$> SpatialTest.ofFields o fs
      | .material => material <$> MaterialTest.ofFields o fs
      | .classification => classification <$> ClassificationTest.ofFields fs
      | .attributeText => attributeText <$> AttributeTest.ofFields fs
      | .quantity => quantity <$> QuantityTest.ofFields o fs
      | .relation => relation <$> RelationTest.ofFields fs
      | .group kind => group kind <$> readMembers o fs
      | .unknown => unknownOfFields fs
    condition.under [.name tag.name]
  | _ => (Checked.fail .notRecord).under [.name ConditionTag.unknown.name]

/-- The members of a group, none where the field is missing. -/
def readMembers (o : Origin) : List (Key × Value) → Checked (List Condition)
  | [] => .ok []
  | (k, v) :: fs =>
    if k == .str "conditions" then (readList o v).under [.name "conditions"]
    else readMembers o fs

def readList (o : Origin) : Value → Checked (List Condition)
  | .list vs => readAll o 0 vs
  | _ => .fail .notTuple

def readAll (o : Origin) (place : Nat) : List Value → Checked (List Condition)
  | [] => .ok []
  | v :: vs => List.cons <$> (read o v).under [.place place] <*> readAll o (place + 1) vs

end

end Condition

namespace Rule

def decoder (o : Origin) : Decoder Rule := record fun fs =>
  mk <$> required fs "id" text
    <*> required fs "name" text
    <*> optional fs "description" (orNothing text) none
    <*> optional fs "conditions" (tuple (Condition.read o)) []
    <*> optional fs "mode" (named RuleMode.named?) .all

/-- A rule from JSON text. -/
def ofJson (s : String) : Checked Rule :=
  match Json.read? s with
  | some v => decoder .json v
  | none => .fail .badJson

/-- A rule from a document, or from the JSON text of one. -/
def read : Value → Checked Rule
  | .str s => ofJson s
  | v => decoder .plain v

end Rule

end BuildingQuery
