import BuildingQuery.Comparison

/-! Conditions on elements: tests of single kinds, groups of conditions, and conditions of kinds
that are not known, which are kept as they came. -/

namespace BuildingQuery

/-- One type or several, of which any will do. -/
inductive TypeNames where
  | one (name : String)
  | many (names : List String)
deriving DecidableEq

def TypeNames.toList : TypeNames → List String
  | one name => [name]
  | many names => names

/-- The type of an element, or one of its supertypes. -/
structure TypeTest where
  names : TypeNames
  subtypes : Bool
  /-- A text where it is read from a document. -/
  predefinedType : Option Value

structure PropertyTest where
  /-- A set by its name, or sets by a pattern. -/
  set : String
  name : String
  comparison : Comparison
  /-- No list and no map. -/
  value : Value
  upper : Option Float

inductive SpatialLevel where
  | project
  | site
  | building
  | storey
  | space
deriving DecidableEq

structure ElevationTest where
  comparison : NumberComparison
  value : Float
  upper : Option Float

structure SpatialTest where
  level : SpatialLevel
  name : Option String
  /-- Counts for storeys only. -/
  elevation : Option ElevationTest

structure MaterialTest where
  name : Option String
  minThickness : Option Float
  maxThickness : Option Float

structure ClassificationTest where
  system : Option String
  code : Option String
  name : Option String

inductive TextAttribute where
  | name
  | description
  | tag
  | objectType
  | predefinedType
deriving DecidableEq

structure AttributeTest where
  subject : TextAttribute
  comparison : TextComparison
  value : String

structure QuantityTest where
  /-- Without a set every set is searched. -/
  set : Option String
  name : String
  comparison : NumberComparison
  value : Float
  upper : Option Float

inductive RelationKind where
  | containedIn
  | aggregatedBy
  | connectedTo
  | hasOpenings
  | fillsOpening
  | hasType
deriving DecidableEq

structure RelationTarget where
  typeName : Option String
  name : Option String

structure RelationTest where
  relation : RelationKind
  target : Option RelationTarget

/-- All members hold, one holds, or none holds. -/
inductive GroupKind where
  | all
  | any
  | none
deriving DecidableEq

inductive Condition where
  | type (t : TypeTest)
  | property (t : PropertyTest)
  | spatial (t : SpatialTest)
  | material (t : MaterialTest)
  | classification (t : ClassificationTest)
  | attributeText (t : AttributeTest)
  | quantity (t : QuantityTest)
  | relation (t : RelationTest)
  | group (kind : GroupKind) (members : List Condition)
  /-- A condition of another kind, with the fields it came with. -/
  | unknown (kind : String) (fields : List (Key × Value))

namespace SpatialLevel

def name : SpatialLevel → String
  | project => "project"
  | site => "site"
  | building => "building"
  | storey => "storey"
  | space => "space"

def named? (s : String) : Option SpatialLevel :=
  [project, site, building, storey, space].find? (·.name == s)

end SpatialLevel

namespace TextAttribute

/-- The name in documents. -/
def label : TextAttribute → String
  | name => "name"
  | description => "description"
  | tag => "tag"
  | objectType => "objectType"
  | predefinedType => "predefinedType"

def named? (s : String) : Option TextAttribute :=
  [name, description, tag, objectType, predefinedType].find? (·.label == s)

end TextAttribute

namespace RelationKind

def name : RelationKind → String
  | containedIn => "containedIn"
  | aggregatedBy => "aggregatedBy"
  | connectedTo => "connectedTo"
  | hasOpenings => "hasOpenings"
  | fillsOpening => "fillsOpening"
  | hasType => "hasType"

def named? (s : String) : Option RelationKind :=
  [containedIn, aggregatedBy, connectedTo, hasOpenings, fillsOpening, hasType].find? (·.name == s)

end RelationKind

namespace GroupKind

def name : GroupKind → String
  | all => "and"
  | any => "or"
  | none => "not"

def named? (s : String) : Option GroupKind := [all, any, none].find? (·.name == s)

end GroupKind

inductive RuleMode where
  | all
  | any
deriving DecidableEq

namespace RuleMode

def name : RuleMode → String
  | all => "all"
  | any => "any"

def named? (s : String) : Option RuleMode := [all, any].find? (·.name == s)

end RuleMode

/-- A named selection: conditions that are combined at the top. -/
structure Rule where
  id : String
  name : String
  description : Option String
  conditions : List Condition
  mode : RuleMode

end BuildingQuery
