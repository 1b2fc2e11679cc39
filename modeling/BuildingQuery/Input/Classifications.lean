import BuildingQuery.Decode
import BuildingQuery.Facet

/-! The classification systems of a model file, and the references into them. -/

namespace BuildingQuery

open Decoder

structure ClassificationSystem where
  name : String
  source : Option String

structure ClassificationReference where
  code : String
  name : Option String
  /-- The id of a system or of a more general reference. -/
  source : Option Int

structure Classifications where
  systems : OrderedMap Int ClassificationSystem
  references : OrderedMap Int ClassificationReference
  /-- The references of each element. -/
  byElement : OrderedMap Int (List Int)

def ClassificationSystem.decoder : Decoder ClassificationSystem := record fun fs =>
  mk <$> required fs "name" text
    <*> optional fs "source" (orNothing text) none

def ClassificationSystem.facet (s : ClassificationSystem) : Facet :=
  .record "ClassificationSource" [
    ("name", .text s.name),
    ("source", .ofOption .text s.source)]

def ClassificationReference.decoder : Decoder ClassificationReference := record fun fs =>
  mk <$> required fs "identification" text
    <*> optional fs "name" (orNothing text) none
    <*> optional fs "referenced_source" (orNothing integer) none

def ClassificationReference.facet (r : ClassificationReference) : Facet :=
  .record "ClassificationReferenceData" [
    ("identification", .text r.code),
    ("name", .ofOption .text r.name),
    ("referenced_source", .ofOption .int r.source)]

def Classifications.decoder : Decoder Classifications := record fun fs =>
  mk <$> optional fs "classifications" (map integer ClassificationSystem.decoder) []
    <*> optional fs "classification_references" (map integer ClassificationReference.decoder) []
    <*> optional fs "element_classifications" (map integer (list integer)) []

def Classifications.facet (c : Classifications) : Facet := .record "ClassificationsData" [
  ("classifications", .ofInts ClassificationSystem.facet c.systems),
  ("classification_references", .ofInts ClassificationReference.facet c.references),
  ("element_classifications", .ofInts .ints c.byElement)]

end BuildingQuery
