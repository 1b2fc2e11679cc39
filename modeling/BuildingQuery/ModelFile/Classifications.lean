import BuildingQuery.Input.Classifications
import BuildingQuery.ModelFile

/-! The classifications of a model file. -/

namespace BuildingQuery

namespace FileEntity

def classificationSystem (e : FileEntity) : ClassificationSystem where
  name := e.text "Name"
  source := e.text? "Source"

/-- The code of a reference: the first that is not empty of its own codes and its name. -/
def referenceCode (e : FileEntity) : String :=
  (["Identification", "ItemReference", "Name"].map e.text).find? (· != "") |>.getD ""

def classificationReference (e : FileEntity) : ClassificationReference where
  code := e.referenceCode
  name := e.text? "Name"
  source := (e.value "ReferencedSource").id?

end FileEntity

namespace ModelFile

/-- The objects of one association with the reference. Associations with whole systems count for
nothing. -/
def classified (f : ModelFile) (e : FileEntity) : Except FileError (List (Int × Int)) :=
  match f.referred? e "RelatingClassification" with
  | none => throw .openAssociation
  | some r =>
    if f.isA r "IfcClassificationReference" then
      return (e.ids "RelatedObjects").map fun element => (element, r.id)
    else return []

def classifications (f : ModelFile) : Except FileError Classifications := do
  let pairs ← (f.ofClass "IfcRelAssociatesClassification").mapM f.classified
  return {
    systems := (f.ofClass "IfcClassification").map fun e => (e.id, e.classificationSystem)
    references := (f.ofClass "IfcClassificationReference").map fun e =>
      (e.id, e.classificationReference)
    byElement := pairs.flatten.foldl (fun m p => m.push p.1 p.2) [] }

end ModelFile

end BuildingQuery
