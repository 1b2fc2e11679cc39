import BuildingQuery.Selection

/-! Rules under construction. A draft takes steps; a step adds or changes conditions, or says what
the rule is called. What a draft holds need not be fit for a rule: that is checked when it is
built. -/

namespace BuildingQuery

/-- What stands among the conditions of a draft: a condition, or something that is none. -/
inductive DraftEntry where
  | condition (c : Condition)
  | other (v : Value)

structure Draft where
  id : Value
  name : Value := .str "Unnamed Rule"
  description : Value := .null
  entries : List DraftEntry := []
  mode : RuleMode := .all

/-- Why a step cannot be taken. -/
inductive StepError where
  | wrong (issues : List Issue)
  | fault (f : Fault)

abbrev Attempt (α : Type) := Except StepError α

def Checked.attempt {α : Type} : Checked α → Attempt α
  | .ok a => .ok a
  | .wrong is => .error (.wrong is)

/-- One of the conditions of which a draft takes any. -/
inductive Alternative where
  | type (names : Value)
  | property (set name value : Value)
  | classification (system code : Value)
  | material (name : Value)

/-- Steps with what they are given, which is checked when they are taken. -/
inductive DraftStep where
  /-- Makes a test of types the first condition, in place of one that is there. -/
  | select (types : Value)
  | setId (v : Value)
  | setName (v : Value)
  | setDescription (v : Value)
  | add (condition : Value)
  | property (path : String) (comparison : Comparison) (value upper : Value)
  | quantity (path : String) (comparison : NumberComparison) (value upper : Value)
  | text (subject : TextAttribute) (comparison : TextComparison) (value : Value)
  | inside (level : SpatialLevel) (name : Value)
  | atElevation (elevation tolerance : Value)
  | material (name : Value)
  | thickness (least most : Value)
  | classification (system code : Value)
  | predefinedType (v : Value)
  | anyOf (alternatives : List Alternative)
  | matchAny

namespace Draft

/-- The id of a draft that is given none, made of the time in milliseconds. -/
def defaultId (seconds : Value.Numeric) : String :=
  let milliseconds := match seconds with
    | .int n => n * 1000
    | .float x => Number.truncate (x * 1000)
  "rule-" ++ toString milliseconds

def empty (seconds : Value.Numeric) : Draft := { id := .str (defaultId seconds) }

/-- Fields as a reader of documents takes them. -/
def asFields (fields : List (String × Value)) : Decoder.Fields :=
  fields.map fun f => (.str f.1, f.2)

/-- A list of names, or the keys of a map. -/
def sequence? : Value → Option (List Value)
  | .list vs => some vs
  | .map es => some (es.map fun e => match e.1 with
    | .int n => .int n
    | .float x => .float x
    | .str s => .str s)
  | _ => none

def typeTest (names : Value) : Attempt Condition :=
  (Condition.type <$> TypeTest.ofFields (asFields [("entity_type", names)])).attempt

/-- The test that a selection of types stands for: none for no types, or if the first is a star. -/
def seed (types : Value) : Attempt (Option Condition) :=
  let names : Option (List Value) := match types with
    | .str s => some [.str s]
    | v => sequence? v
  match names with
  | none => throw (.fault .mistyped)
  | some [] => return none
  | some (first :: rest) =>
    if first.same (.str "*") then return none
    else some <$> typeTest (.list (first :: rest))

/-- Set and name of a path with exactly one point; any other path is a bare name. -/
def splitPath (path : String) : Option String × String :=
  match path.splitToList (· == '.') with
  | [set, name] => (some set, name)
  | _ => (none, path)

def propertyTest (path : String) (op : Comparison) (value upper : Value) : Attempt Condition :=
  let (set, name) := splitPath path
  (Condition.property <$> PropertyTest.ofFields .plain (asFields [
    ("property_set", .str ((nonempty? set).getD "*")),
    ("property_name", .str name),
    ("operator", .str op.name),
    ("value", value),
    ("value_to", upper)])).attempt
where
  nonempty? : Option String → Option String
    | none | some "" => none
    | some s => some s

def quantityTest (path : String) (op : NumberComparison) (value upper : Value) :
    Attempt Condition :=
  let (set, name) := splitPath path
  (Condition.quantity <$> QuantityTest.ofFields .plain (asFields [
    ("quantity_set", (set.map .str).getD .null),
    ("quantity_name", .str name),
    ("operator", .str op.name),
    ("value", value),
    ("value_to", upper)])).attempt

def textTest (a : TextAttribute) (op : TextComparison) (value : Value) : Attempt Condition :=
  (Condition.attributeText <$> AttributeTest.ofFields (asFields [
    ("attribute", .str a.label),
    ("operator", .str op.name),
    ("value", value)])).attempt

def containerTest (level : SpatialLevel) (name : Value) : Attempt Condition :=
  (Condition.spatial <$> SpatialTest.ofFields .plain (asFields [
    ("level", .str level.name),
    ("name", name)])).attempt

/-- Sums and differences: exact between integers, else between the nearest floats. -/
def combine (ints : Int → Int → Int) (floats : Float → Float → Float) (v w : Value) :
    Attempt Value :=
  let float : Value.Numeric → Attempt Float
    | .float x => return x
    | .int n => match Number.ofInt? n with
      | some x => return x
      | none => throw (.fault .integerTooLarge)
  match v.numeric?, w.numeric? with
  | some (.int m), some (.int n) => return .int (ints m n)
  | some m, some n => do
    let x ← float m
    let y ← float n
    return .float (floats x y)
  | _, _ => throw (.fault .mistyped)

/-- A storey whose elevation differs from the given one by the tolerance at most. -/
def elevationTest (elevation tolerance : Value) : Attempt Condition := do
  let low ← combine (· - ·) (· - ·) elevation tolerance
  let high ← combine (· + ·) (· + ·) elevation tolerance
  let test ← (ElevationTest.decoder .plain (Value.record [
    ("operator", .str NumberComparison.between.name),
    ("value", low),
    ("value_to", high)])).attempt
  return .spatial ⟨.storey, none, some test⟩

def materialTest (name least most : Value) : Attempt Condition :=
  (Condition.material <$> MaterialTest.ofFields .plain (asFields [
    ("name", name),
    ("min_thickness", least),
    ("max_thickness", most)])).attempt

def classificationTest (system code : Value) : Attempt Condition :=
  (Condition.classification <$> ClassificationTest.ofFields (asFields [
    ("system", system),
    ("code", code)])).attempt

def alternativeTest : Alternative → Attempt Condition
  | .type names =>
    match names with
    | .str s => typeTest (.str s)
    | v => match sequence? v with
      | some vs => typeTest (.list vs)
      | none => throw (.fault .mistyped)
  | .property set name value =>
    (Condition.property <$> PropertyTest.ofFields .plain (asFields [
      ("property_set", set),
      ("property_name", name),
      ("operator", .str Comparison.equals.name),
      ("value", value)])).attempt
  | .classification system code => classificationTest system code
  | .material name => materialTest name .null .null

/-- Sets the predefined type of the first test of types, if there is one. -/
def narrowTypes? (v : Value) : List DraftEntry → Option (List DraftEntry)
  | [] => none
  | .condition (.type t) :: es =>
    some (.condition (.type { t with predefinedType := if v.isNull then none else some v }) :: es)
  | e :: es => (narrowTypes? v es).map (e :: ·)

/-- The entries without a test of types in front. -/
def withoutSeed : List DraftEntry → List DraftEntry
  | .condition (.type _) :: es => es
  | es => es

def push (d : Draft) (c : Condition) : Draft := { d with entries := d.entries ++ [.condition c] }

/-- A map is read as a condition; anything else is taken as it is. -/
def addRaw (d : Draft) (v : Value) : Attempt Draft :=
  match v with
  | .map _ => d.push <$> (Condition.read .plain v).attempt
  | v => return { d with entries := d.entries ++ [.other v] }

/-- The draft after a step, and what went wrong. A selection takes the old test of types away before
it looks at the new types; every other step that goes wrong changes nothing. -/
def step (d : Draft) (s : DraftStep) : Draft × Option StepError :=
  let attempt (r : Attempt Draft) : Draft × Option StepError :=
    match r with
    | .ok d => (d, none)
    | .error e => (d, some e)
  match s with
  | .select types =>
    let rest := withoutSeed d.entries
    match seed types with
    | .ok c => ({ d with entries := c.toList.map .condition ++ rest }, none)
    | .error e => ({ d with entries := rest }, some e)
  | .setId v => ({ d with id := v }, none)
  | .setName v => ({ d with name := v }, none)
  | .setDescription v => ({ d with description := v }, none)
  | .add v => attempt (d.addRaw v)
  | .property path op value upper => attempt (d.push <$> propertyTest path op value upper)
  | .quantity path op value upper => attempt (d.push <$> quantityTest path op value upper)
  | .text a op value => attempt (d.push <$> textTest a op value)
  | .inside level name => attempt (d.push <$> containerTest level name)
  | .atElevation elevation tolerance => attempt (d.push <$> elevationTest elevation tolerance)
  | .material name => attempt (d.push <$> materialTest name .null .null)
  | .thickness least most => attempt (d.push <$> materialTest .null least most)
  | .classification system code => attempt (d.push <$> classificationTest system code)
  | .predefinedType v =>
    match narrowTypes? v d.entries with
    | some es => ({ d with entries := es }, none)
    | none => attempt (d.push <$> textTest .predefinedType .equals v)
  | .anyOf alternatives =>
    attempt do
      let cs ← alternatives.mapM alternativeTest
      return if cs.isEmpty then d else d.push (.group .any cs)
  | .matchAny => ({ d with mode := .any }, none)

/-- The condition of an entry; what is none is reported like a condition of no kind. -/
def entryCondition : DraftEntry → Checked Condition
  | .condition c => .ok c
  | .other v => Condition.read .plain v

/-- The rule of a draft, if everything in it is fit for one. -/
def build (d : Draft) : Checked Rule :=
  let conditions := (Checked.traverse entryCondition 0 d.entries).under [.name "conditions"]
  Rule.mk <$> (Decoder.text d.id).under [.name "id"]
    <*> (Decoder.text d.name).under [.name "name"]
    <*> (Decoder.orNothing Decoder.text d.description).under [.name "description"]
    <*> conditions
    <*> .ok d.mode

/-- A draft as plain data; it can be shown only if all its entries are conditions. -/
def document (d : Draft) : Except Fault Value := do
  let conditions ← d.entries.mapM fun
    | .condition c => return c.document .dropped
    | .other _ => throw .missingPart
  return Value.record [
    ("id", d.id),
    ("name", d.name),
    ("description", d.description),
    ("mode", .str d.mode.name),
    ("conditions", .list conditions)]

end Draft

end BuildingQuery
