import BuildingQuery.Draft

/-! Drafts written as scripts: a list of steps, each a list of a name and what the step is given.
The first step begins the draft. -/

namespace BuildingQuery

namespace Draft

/-- What a step that names a path or an attribute compares it by. -/
def comparisonNamed : List (String × Comparison) := [
  ("equals", .equals),
  ("not_equals", .notEquals),
  ("contains", .contains),
  ("not_contains", .notContains),
  ("starts_with", .startsWith),
  ("ends_with", .endsWith),
  ("matches", .matches),
  ("greater_than", .greaterThan),
  ("less_than", .lessThan),
  ("greater_or_equal", .greaterOrEqual),
  ("less_or_equal", .lessOrEqual),
  ("between", .between),
  ("exists", .exists),
  ("not_exists", .notExists)]

/-- A comparison with its operands: none to see whether something exists, two for a range. -/
def operands (op : Comparison) (args : List Value) : Attempt (Value × Value) :=
  match op, args with
  | .exists, [] | .notExists, [] => return (.null, .null)
  | .exists, _ | .notExists, _ => throw (.fault .mistyped)
  | .between, [low, high] => return (low, high)
  | .between, _ => throw (.fault .mistyped)
  | _, [v] => return (v, .null)
  | _, _ => throw (.fault .mistyped)

/-- A comparison by its name among those of a kind. -/
def comparison {α : Type} (kind? : String → Option α) (name : String) :
    Attempt (α × Comparison) :=
  match (comparisonNamed.lookup name).bind fun op => (kind? op.name).map fun a => (a, op) with
  | some r => return r
  | none => throw (.fault .missingPart)

def propertyStep (path : Value) (op : String) (args : List Value) : Attempt DraftStep :=
  match path with
  | .str path => do
    let (op, _) ← comparison Comparison.named? op
    let (value, upper) ← operands op args
    return .property path op value upper
  | _ => throw (.fault .missingPart)

def quantityStep (path : Value) (op : String) (args : List Value) : Attempt DraftStep :=
  match path with
  | .str path => do
    let (op, general) ← comparison NumberComparison.named? op
    let (value, upper) ← operands general args
    return .quantity path op value upper
  | _ => throw (.fault .missingPart)

/-- Texts are not compared by what they do not contain. -/
def textStep (a : TextAttribute) (op : String) (args : List Value) : Attempt DraftStep := do
  let (op, general) ← comparison TextComparison.named? op
  if op = .notContains then throw (.fault .missingPart)
  let (value, _) ← operands general args
  return .text a op value

def alternative : Value → Attempt Alternative
  | .list (.str "type" :: args) =>
    match args with
    | [names] => return .type names
    | _ => throw (.fault .mistyped)
  | .list (.str "property" :: args) =>
    match args with
    | [set, name, value] => return .property set name value
    | _ => throw (.fault .mistyped)
  | .list (.str "classification" :: args) =>
    match args with
    | [system] => return .classification system .null
    | [system, code] => return .classification system code
    | _ => throw (.fault .mistyped)
  | .list (.str "material" :: args) =>
    match args with
    | [name] => return .material name
    | _ => throw (.fault .mistyped)
  | _ => throw (.fault .missingPart)

/-- Alternatives are read and tested one after the other. -/
def alternatives : List Value → Attempt (List Alternative)
  | [] => return []
  | v :: vs => do
    let a ← alternative v
    let _ ← alternativeTest a
    return a :: (← alternatives vs)

/-- A step with one operand. -/
def one (args : List Value) (f : Value → DraftStep) : Attempt DraftStep :=
  match args with
  | [v] => return f v
  | _ => throw (.fault .mistyped)

/-- A step with an operand, and one that has a default. -/
def oneOrTwo (args : List Value) (default : Value) (f : Value → Value → DraftStep) :
    Attempt DraftStep :=
  match args with
  | [v] => return f v default
  | [v, w] => return f v w
  | _ => throw (.fault .mistyped)

/-- A step by its name. -/
def readStep (name : String) (args : List Value) : Attempt DraftStep :=
  match name, args with
  | "select", args => one args .select
  | "with_id", args => one args .setId
  | "with_name", args => one args .setName
  | "with_description", args => one args .setDescription
  | "add_condition", args => one args .add
  | "where", path :: .str op :: args | "and_", path :: .str op :: args => propertyStep path op args
  | "with_quantity", path :: .str op :: args => quantityStep path op args
  | "where_name", .str op :: args => textStep .name op args
  | "where_description", .str op :: args => textStep .description op args
  | "where_tag", .str op :: args => textStep .tag op args
  | "where_object_type", .str op :: args => textStep .objectType op args
  | "on_storey", args => one args (.inside .storey)
  | "in_building", args => one args (.inside .building)
  | "in_space", args => one args (.inside .space)
  | "on_storey_at_elevation", args => oneOrTwo args (.float 1) .atElevation
  | "with_material", args => one args .material
  | "with_material_thickness", [] => return .thickness .null .null
  | "with_material_thickness", args => oneOrTwo args .null .thickness
  | "with_classification", args => oneOrTwo args .null .classification
  | "with_classification_code", args => one args (.classification (.str "*"))
  | "with_predefined_type", args => one args .predefinedType
  | "or_", [.list vs] => .anyOf <$> alternatives vs
  | "match_any", [] => return .matchAny
  | "match_any", _ => throw (.fault .mistyped)
  | _, _ => throw (.fault .missingPart)

/-- The draft after a written step. -/
def runStep (d : Draft) (name : String) (args : List Value) : Draft × Option StepError :=
  match readStep name args with
  | .ok s => d.step s
  | .error e => (d, some e)

/-- A draft with conditions to begin with. -/
def addAll (d : Draft) : List Value → Attempt Draft
  | [] => return d
  | v :: vs => do (← d.addRaw v).addAll vs

/-- The draft that a first step begins. -/
def begin (seconds : Value.Numeric) (name : String) (args : List Value) : Attempt Draft :=
  let d := empty seconds
  match name, args with
  | "all", [] => return d
  | "select", [.null] => return d
  | "select", [types] =>
    match d.step (.select types) with
    | (d, none) => return d
    | (_, some e) => throw e
  | "from_conditions", [.str s] => d.addAll (s.toList.map fun c => .str c.toString)
  | "from_conditions", [v] =>
    match sequence? v with
    | some vs => d.addAll vs
    | none => throw (.fault .mistyped)
  | "all", _ | "select", _ | "from_conditions", _ => throw (.fault .mistyped)
  | _, _ => throw (.fault .missingPart)

/-- The draft of a whole script, up to the first step that goes wrong. -/
def ofScript (seconds : Value.Numeric) : List Value → Attempt Draft
  | .list (.str name :: args) :: steps => do runAll (← begin seconds name args) steps
  | _ => throw (.fault .mistyped)
where
  runAll (d : Draft) : List Value → Attempt Draft
    | [] => return d
    | .list (.str name :: args) :: steps =>
      match d.runStep name args with
      | (d, none) => runAll d steps
      | (_, some e) => throw e
    | _ :: _ => throw (.fault .mistyped)

end Draft

end BuildingQuery
