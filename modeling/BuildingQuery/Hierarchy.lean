import BuildingQuery.OrderedMap
import BuildingQuery.Text.Case

/-! The types of a model and what they are kinds of. Names are the same in any case; the table says
how they are written. -/

namespace BuildingQuery

/-- The direct supertype of each type; a root has none. -/
structure Hierarchy where
  parents : OrderedMap String (Option String)

namespace Hierarchy

/-- The name as the table writes it, in the last place where it has it. A name that the table does
not have stays as it is. -/
def resolve (h : Hierarchy) (typeName : String) : String :=
  let wanted := Text.upper typeName
  (h.parents.keys.reverse.find? fun name => Text.upper name == wanted).getD typeName

def parent? (h : Hierarchy) (name : String) : Option String := (h.parents.get? name).join

/-- The names from a given one up to a root, or up to the first that comes again. Each name but the
last is one of the table, which bounds the steps. -/
def climb (h : Hierarchy) : (fuel : Nat) → (below : List String) → String → List String
  | 0, _, _ => []
  | fuel + 1, below, name =>
    if below.contains name then []
    else name :: match h.parent? name with
      | none => []
      | some up => h.climb fuel (name :: below) up

/-- The ancestry of a name as the table writes it, from the most general name down to its own. -/
def ancestry (h : Hierarchy) (name : String) : List String :=
  (h.climb (h.parents.length + 1) [] name).reverse

/-- The ancestry of a type, whose name may be written in any case. -/
def chain (h : Hierarchy) (typeName : String) : List String := h.ancestry (h.resolve typeName)

def isSubtype (h : Hierarchy) (typeName ancestor : String) : Bool :=
  (h.chain typeName).any fun name => Text.upper name == Text.upper ancestor

def contains (h : Hierarchy) (typeName : String) : Bool :=
  h.parents.keys.any fun name => Text.upper name == Text.upper typeName

def names (h : Hierarchy) : List String := h.parents.keys

def size (h : Hierarchy) : Nat := h.parents.length

/-- The hierarchy with given roots, and with the direct subtypes of each type that has any. -/
def ofSubtypes (roots : List String) (subtypes : List (String × List String)) : Hierarchy where
  parents := (roots.map fun name => (name, none)) ++
    subtypes.flatMap fun (up, names) => names.map fun name => (name, some up)

end Hierarchy

end BuildingQuery
