import BuildingQuery.Hierarchy

/-! The schemas that model files are written in. -/

namespace BuildingQuery

structure Schema where
  hierarchy : Hierarchy
  /-- The attributes that a class of products adds to those of its supertypes. -/
  ownAttributes : List (String × List String)
  /-- The relationships that take an object apart. -/
  decompositions : List String

def Schema.attributes (s : Schema) (className : String) : List String :=
  (s.hierarchy.ancestry className).flatMap fun name => (s.ownAttributes.lookup name).getD []

end BuildingQuery
