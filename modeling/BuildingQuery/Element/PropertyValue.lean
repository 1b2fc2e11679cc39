import BuildingQuery.Decode
import BuildingQuery.Facet

/-! A property's value with the kind it had in the model. -/

namespace BuildingQuery

inductive PropertyKind where
  | text
  | number
  | truth
  | nothing
deriving DecidableEq

namespace PropertyKind

def name : PropertyKind → String
  | text => "string"
  | number => "number"
  | truth => "boolean"
  | nothing => "null"

def named? (s : String) : Option PropertyKind :=
  [text, number, truth, nothing].find? (·.name == s)

end PropertyKind

structure PropertyValue where
  kind : PropertyKind
  /-- No list and no map. -/
  value : Value
  unit : Option String

namespace PropertyValue

/-- A raw value with its kind. The signs for truth values in model files are read; what is no single
value is kept by its text. -/
def of (v : Value) (unit : Option String) : PropertyValue :=
  match v with
  | .null => ⟨.nothing, .null, unit⟩
  | .bool b => ⟨.truth, .bool b, unit⟩
  | .int n => ⟨.number, .int n, unit⟩
  | .float x => ⟨.number, .float x, unit⟩
  | .str ".T." => ⟨.truth, .bool true, unit⟩
  | .str ".F." => ⟨.truth, .bool false, unit⟩
  | v => ⟨.text, .str v.plainText, unit⟩

/-- A raw value with a raw unit. -/
def ofRaw (v unit : Value) : Checked PropertyValue :=
  of v <$> (Decoder.orNothing Decoder.text unit).under [.name "unit"]

def decoder : Decoder PropertyValue := Decoder.record fun fs =>
  mk <$> Decoder.required fs "kind" (Decoder.named PropertyKind.named?)
    <*> Decoder.optional fs "value" Decoder.scalar .null
    <*> Decoder.optional fs "unit" (Decoder.orNothing Decoder.text) none

def facet (p : PropertyValue) : Facet := .record "PropertyValue" [
  ("kind", .text p.kind.name),
  ("value", .value p.value),
  ("unit", .ofOption .text p.unit)]

end PropertyValue

end BuildingQuery
