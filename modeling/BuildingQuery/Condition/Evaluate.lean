import BuildingQuery.Condition
import BuildingQuery.Index

/-! Whether an element meets a condition. The index is needed only to look up related elements; what
cannot be looked up does not match. -/

namespace BuildingQuery

namespace Element

/-- Whether a text of sets or systems means all of them. -/
def meansAll (pattern : Option String) : Bool := pattern == none || pattern == some "*"

/-- The first set that a pattern accepts and that has the property; a set named without wildcards is
looked up by its very name. -/
def property? (e : Element) (set name : String) : Option PropertyValue :=
  if set == "*" || Pattern.hasWildcard set then
    e.properties.findSome? fun s =>
      if set == "*" || Pattern.accepts set s.1 then OrderedMap.get? s.2 name else none
  else (e.properties.get? set).bind fun ps => OrderedMap.get? ps name

/-- The first set that a pattern accepts and that has the quantity. -/
def quantity? (e : Element) (set : Option String) (name : String) : Option Float :=
  e.quantities.findSome? fun s =>
    if meansAll set || set.any (Pattern.accepts · s.1) then OrderedMap.get? s.2 name else none

def textOf (e : Element) : TextAttribute → Option String
  | .name => e.name
  | .description => e.description
  | .tag => e.tag
  | .objectType => e.objectType
  | .predefinedType => e.predefinedType

def related (e : Element) : RelationKind → List Int
  | .containedIn => e.relations.containedIn.toList
  | .aggregatedBy => e.relations.aggregatedBy.toList
  | .connectedTo => e.relations.connectedTo
  | .hasOpenings => e.relations.hasOpenings
  | .fillsOpening => e.relations.fillsOpening.toList
  | .hasType => e.relations.hasType.toList

end Element

def Location.at (l : Location) : SpatialLevel → Option String
  | .project => l.project
  | .site => l.site
  | .building => l.building
  | .storey => l.storey
  | .space => l.space

/-- A pattern that is not given accepts everything. -/
def acceptedBy (pattern : Option String) (value : Option String) : Bool :=
  pattern.all fun p => Pattern.acceptsOpt p value

namespace TypeTest

/-- The pattern for predefined types; anything but a text can be told apart only from nothing. -/
def predefinedHolds (t : TypeTest) (e : Element) : Except Fault Bool :=
  match t.predefinedType, e.predefinedType with
  | none, _ => return true
  | some (.str p), v => return Pattern.acceptsOpt p v
  | some _, none => return false
  | some (.list vs), some _ =>
    if vs.any fun v => v.same (.str "*") || v.same (.str "?") then throw .mistyped
    else throw .missingPart
  | some (.map es), some _ =>
    if es.any fun e => e.1 == .str "*" || e.1 == .str "?" then throw .mistyped
    else throw .missingPart
  | some _, some _ => throw .mistyped

def typeHolds (t : TypeTest) (e : Element) (name : String) : Bool :=
  if t.subtypes then e.ancestry.any (Pattern.accepts name) else Pattern.accepts name e.typeName

def holds (t : TypeTest) (e : Element) : Except Fault Bool :=
  if t.names.toList.any (t.typeHolds e) then t.predefinedHolds e else return false

end TypeTest

/-- A float that may be missing, as a value. -/
def floatValue (x : Option Float) : Value := (x.map .float).getD .null

def PropertyTest.holds (t : PropertyTest) (e : Element) : Except Fault Bool :=
  match e.property? t.set t.name, t.comparison with
  | p, .exists => return p.isSome
  | p, .notExists => return p.isNone
  | none, op => return op == .notEquals
  | some p, op => op.holds p.value t.value (floatValue t.upper)

def ElevationTest.holds (t : ElevationTest) (elevation : Option Float) : Except Fault Bool :=
  match elevation with
  | none => return false
  | some x =>
    t.comparison.toComparison.holdsOfNumbers (.float x) (.float t.value) (floatValue t.upper)

/-- Without a name and an elevation it is enough that the element has a container. -/
def SpatialTest.holds (t : SpatialTest) (e : Element) : Except Fault Bool := do
  let container := e.location.at t.level
  let elevation := if t.level = .storey then t.elevation else none
  let named := t.name.all fun p => container.any fun s => s != "" && Pattern.accepts p s
  if !named then return false
  match elevation with
  | some test => test.holds e.location.storeyElevation
  | none => return t.name.isSome || container.isSome

def MaterialTest.holds (t : MaterialTest) (e : Element) : Bool :=
  e.material.any fun m =>
    (t.name.all fun p => Pattern.accepts p m.name || m.layers.any (Pattern.accepts p ·.material)) &&
      ((t.minThickness.isNone && t.maxThickness.isNone) ||
        m.totalThickness.any fun x =>
          (t.minThickness.all fun least => !(x < least)) &&
            t.maxThickness.all fun most => !(most < x))

def ClassificationTest.holds (t : ClassificationTest) (e : Element) : Bool :=
  e.classifications.any fun c =>
    (Element.meansAll t.system || acceptedBy t.system c.system) && acceptedBy t.code c.code &&
      acceptedBy t.name c.name

def AttributeTest.holds (t : AttributeTest) (e : Element) : Except Fault Bool :=
  t.comparison.toComparison.holdsOfText (e.textOf t.subject) t.value

def QuantityTest.holds (t : QuantityTest) (e : Element) : Except Fault Bool :=
  t.comparison.toComparison.holdsOfNumber (floatValue (e.quantity? t.set t.name)) (.float t.value)
    (floatValue t.upper)

def RelationTarget.holds (t : RelationTarget) (e : Element) : Bool :=
  (t.typeName.all fun p => e.ancestry.any (Pattern.accepts p)) && acceptedBy t.name e.name

/-- Whether anything is asked of a related element. -/
def RelationTarget.isOpen (t : RelationTarget) : Bool := t.typeName.isNone && t.name.isNone

def RelationTest.holds (t : RelationTest) (ix : Option Index) (e : Element) : Bool :=
  let ids := e.related t.relation
  match t.target with
  | none => !ids.isEmpty
  | some target =>
    if target.isOpen then !ids.isEmpty
    else ids.any fun id => (ix.bind (·.get? id)).any target.holds

namespace Condition

mutual

def holds (ix : Option Index) (e : Element) : Condition → Except Fault Bool
  | type t => t.holds e
  | property t => t.holds e
  | spatial t => t.holds e
  | material t => return t.holds e
  | classification t => return t.holds e
  | attributeText t => t.holds e
  | quantity t => t.holds e
  | relation t => return t.holds ix e
  | group .all cs => allHold ix e cs
  | group .any cs => anyHolds ix e cs
  | group .none cs => do return !(← anyHolds ix e cs)
  | unknown _ _ => return false

/-- Conditions are tried until one fails. -/
def allHold (ix : Option Index) (e : Element) : List Condition → Except Fault Bool
  | [] => return true
  | c :: cs => do if ← holds ix e c then allHold ix e cs else return false

/-- Conditions are tried until one holds. -/
def anyHolds (ix : Option Index) (e : Element) : List Condition → Except Fault Bool
  | [] => return false
  | c :: cs => do if ← holds ix e c then return true else anyHolds ix e cs

end

end Condition

/-- Whether an element meets conditions that stand side by side. -/
def RuleMode.holds (m : RuleMode) (ix : Option Index) (e : Element) (cs : List Condition) :
    Except Fault Bool :=
  match m with
  | .all => Condition.allHold ix e cs
  | .any => Condition.anyHolds ix e cs

end BuildingQuery
