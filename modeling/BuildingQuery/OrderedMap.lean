/-! Maps that keep the order in which their keys first came. A key that comes again takes its new
value and keeps its place. -/

namespace BuildingQuery

abbrev OrderedMap (κ α : Type) := List (κ × α)

namespace OrderedMap

variable {κ α β : Type} [BEq κ]

def get? (m : OrderedMap κ α) (k : κ) : Option α := List.lookup k m

def contains (m : OrderedMap κ α) (k : κ) : Bool := (m.get? k).isSome

def keys (m : OrderedMap κ α) : List κ := m.map (·.1)

def values (m : OrderedMap κ α) : List α := m.map (·.2)

def put : OrderedMap κ α → κ → α → OrderedMap κ α
  | [], k, x => [(k, x)]
  | (l, y) :: m, k, x => if k == l then (l, x) :: m else (l, y) :: put m k x

def ofList (entries : List (κ × α)) : OrderedMap κ α :=
  entries.foldl (fun m e => put m e.1 e.2) []

/-- The first map with the entries of the second put into it. -/
def putAll (m m' : OrderedMap κ α) : OrderedMap κ α :=
  m'.foldl (fun m e => put m e.1 e.2) m

def mapValues (f : α → β) (m : OrderedMap κ α) : OrderedMap κ β :=
  List.map (fun e => (e.1, f e.2)) m

/-- Adds a member to the group of a key, at its end. -/
def push (m : OrderedMap κ (List α)) (k : κ) (x : α) : OrderedMap κ (List α) :=
  m.put k ((m.get? k).getD [] ++ [x])

/-- Adds a member to the group of each of several keys. -/
def pushAll (m : OrderedMap κ (List α)) (ks : List κ) (x : α) : OrderedMap κ (List α) :=
  ks.foldl (fun m k => m.push k x) m

/-- Puts the same under each of several keys. -/
def putEach (m : OrderedMap κ α) (ks : List κ) (x : α) : OrderedMap κ α :=
  ks.foldl (fun m k => m.put k x) m

end OrderedMap

end BuildingQuery
