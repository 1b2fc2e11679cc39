import BuildingQuery.Condition
import BuildingQuery.Index
import BuildingQuery.Similarity

/-! Advice on a rule: what in it cannot match anything in an index. Only a rule without conditions
is an error; all else is a warning. -/

namespace BuildingQuery

inductive Severity where
  | error
  | warning
deriving DecidableEq

structure Remark where
  severity : Severity
  path : String
  message : String
  suggestion : String

structure Advice where
  errors : List Remark
  warnings : List Remark

def Severity.name : Severity → String
  | error => "error"
  | warning => "warning"

def Advice.isValid (a : Advice) : Bool := a.errors.isEmpty

namespace Advice

/-- The known names closest to a wanted one, in words. -/
def suggestion (wanted : String) (known : List String) : String :=
  let known := Ordered.texts known
  if known.isEmpty then "The model contains none"
  else
    let names := Similarity.suggested wanted known
    let more := if names.length < known.length then "..." else ""
    "Available: " ++ ", ".intercalate names ++ more

/-- Whether a text names one set or system, and no pattern. -/
def isConcrete (name : String) : Bool := name != "" && !Pattern.hasWildcard name

/-- A remark on a name that an index does not know. -/
def unknownName (path kind : String) (known : List String) (name : Option String) : List Remark :=
  match name with
  | none => []
  | some name =>
    if isConcrete name && !known.contains name then
      [⟨.warning, path, s!"{kind} \"{name}\" not found in model", suggestion name known⟩]
    else []

mutual

def onCondition (ix : Index) (path : String) : Condition → List Remark
  | .property t => unknownName (path ++ ".propertySet") "Property set" ix.propertySets t.set
  | .quantity t => unknownName (path ++ ".quantitySet") "Quantity set" ix.quantitySets t.set
  | .classification t =>
    unknownName (path ++ ".system") "Classification system" ix.classificationSystems t.system
  | .group kind cs =>
    let own := if cs.isEmpty then
        [⟨.warning, path ++ ".conditions", s!"\"{kind.name}\" group has no conditions", ""⟩]
      else []
    own ++ onConditions ix (path ++ ".conditions") 0 cs
  | .unknown kind _ =>
    [⟨.warning, path ++ ".type", s!"Unknown condition type \"{kind}\" never matches", ""⟩]
  | _ => []

def onConditions (ix : Index) (path : String) (place : Nat) : List Condition → List Remark
  | [] => []
  | c :: cs =>
    onCondition ix (path ++ "[" ++ toString place ++ "]") c ++ onConditions ix path (place + 1) cs

end

def ofRule (ix : Index) (r : Rule) : Advice where
  errors := if r.conditions.isEmpty then
      [⟨.error, "conditions", "Rule must have at least one condition", ""⟩]
    else []
  warnings := onConditions ix "conditions" 0 r.conditions

end Advice

end BuildingQuery
