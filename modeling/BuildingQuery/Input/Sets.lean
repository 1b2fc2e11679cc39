import BuildingQuery.Element.PropertyValue

/-! The property sets and quantity sets of a model file. -/

namespace BuildingQuery

open Decoder

structure PropertySet where
  name : String
  properties : OrderedMap String PropertyValue

structure QuantitySet where
  name : String
  quantities : OrderedMap String Float

def PropertySet.decoder : Decoder PropertySet := record fun fs =>
  mk <$> required fs "name" text
    <*> optional fs "properties" (map text PropertyValue.decoder) []

def PropertySet.facet (s : PropertySet) : Facet := .record "PropertySetData" [
  ("name", .text s.name),
  ("properties", .ofTexts PropertyValue.facet s.properties)]

def QuantitySet.decoder : Decoder QuantitySet := record fun fs =>
  mk <$> required fs "name" text
    <*> optional fs "quantities" (map text (float .plain)) []

def QuantitySet.facet (s : QuantitySet) : Facet := .record "QuantitySetData" [
  ("name", .text s.name),
  ("quantities", .ofTexts .float s.quantities)]

end BuildingQuery
