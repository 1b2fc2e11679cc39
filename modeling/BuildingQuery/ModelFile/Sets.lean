import BuildingQuery.Input.Sets
import BuildingQuery.ModelFile

/-! The property sets and quantity sets of a model file. Members of one name are one member, and one
that is called like the id of its set gives way to it. -/

namespace BuildingQuery

/-- A member of a set: a value, or something with values of its own. -/
inductive SetMember where
  | value (v : Value)
  | nested

def firstValue : Value → Value
  | .list vs => vs.headD .null
  | v => v

def FileValue.first : FileValue → Value
  | .list items => firstValue ((items.map unwrapped).headD .null)
  | v => firstValue v.unwrapped

namespace FileEntity

/-- A property as a member of its set. Properties of other kinds are no members. -/
def property? (e : FileEntity) : Option SetMember :=
  match e.className with
  | "IfcPropertySingleValue" => some (.value (e.value "NominalValue").first)
  | "IfcPropertyEnumeratedValue" => some (.value (e.value "EnumerationValues").first)
  | "IfcPropertyListValue" => some (.value (e.value "ListValues").first)
  | "IfcPropertyBoundedValue" | "IfcPropertyTableValue" | "IfcComplexProperty" => some .nested
  | _ => none

/-- The attribute with the value of a simple quantity. -/
def quantityAttributes : List (String × String) := [
  ("IfcQuantityArea", "AreaValue"),
  ("IfcQuantityCount", "CountValue"),
  ("IfcQuantityLength", "LengthValue"),
  ("IfcQuantityTime", "TimeValue"),
  ("IfcQuantityVolume", "VolumeValue"),
  ("IfcQuantityWeight", "WeightValue")]

def quantity? (e : FileEntity) : Option SetMember :=
  match quantityAttributes.lookup e.className with
  | some name => some (.value (e.value name).unwrapped)
  | none => if e.className == "IfcPhysicalComplexQuantity" then some .nested else none

end FileEntity

/-- The number of a quantity; truth values are none. -/
def SetMember.quantity : SetMember → Option Float
  | .value (.int n) => Number.ofInt? n
  | .value (.float x) => some x
  | _ => none

def SetMember.property : SetMember → Option PropertyValue
  | .value v => some (.of v none)
  | .nested => none

namespace ModelFile

/-- The members of a set under their names, in the order in which the names first come. -/
def members (f : ModelFile) (set : FileEntity) (name : String)
    (member? : FileEntity → Option SetMember) : OrderedMap (Option String) SetMember :=
  OrderedMap.ofList <| (set.ids name).filterMap fun id => do
    let e ← f.entity? id
    return (e.text? "Name", ← member? e)

/-- What the members of a set give, each under its name. -/
def named {α : Type} (nameless : FileError) (give : SetMember → Option α)
    (ms : OrderedMap (Option String) SetMember) : Except FileError (OrderedMap String α) :=
  ms.filterMapM fun (name, m) =>
    match name, give m with
    | _, none | some "id", some _ => return none
    | none, some _ => throw nameless
    | some name, some a => return some (name, a)

def propertySets (f : ModelFile) : Except FileError (OrderedMap Int PropertySet) :=
  (f.ofClass "IfcPropertySet").mapM fun e => do
    let members := f.members e "HasProperties" FileEntity.property?
    return (e.id, ⟨e.text "Name", ← named .namelessProperty SetMember.property members⟩)

def quantitySets (f : ModelFile) : Except FileError (OrderedMap Int QuantitySet) :=
  (f.ofClass "IfcElementQuantity").mapM fun e => do
    let members := f.members e "Quantities" FileEntity.quantity?
    return (e.id, ⟨e.text "Name", ← named .namelessQuantity SetMember.quantity members⟩)

end ModelFile

end BuildingQuery
