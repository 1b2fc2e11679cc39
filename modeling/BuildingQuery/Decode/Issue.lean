import BuildingQuery.Number.Decimal
import BuildingQuery.Value

/-! What is wrong with a document, and where. A check goes on after it has found something wrong, so
that all that is wrong with a document is told at once. -/

namespace BuildingQuery

/-- A step from a document into one of its parts. -/
inductive Step where
  | name (s : String)
  | place (n : Int)
deriving DecidableEq

/-- The step to the value of a key. Keys that are no integers are named by their text. -/
def Key.step : Key → Step
  | .str s => .name s
  | .int n => .place n
  | .float x => .name (Number.text x)

inductive IssueKind where
  | missing
  | notText
  | notBool
  | unreadBool
  | notInteger
  | unreadInteger
  | fractional
  | integerTooLong
  | notFinite
  | notFloat
  | unreadFloat
  | notList
  | notTuple
  | notMap
  | notRecord
  | notListed
  | badKey
  | badJson
deriving DecidableEq

structure Issue where
  path : List Step
  kind : IssueKind
deriving DecidableEq

/-- A checked value, or everything found wrong with it. -/
inductive Checked (α : Type) where
  | ok (a : α)
  | wrong (issues : List Issue)

namespace Checked

variable {α β : Type}

def map (f : α → β) : Checked α → Checked β
  | ok a => ok (f a)
  | wrong is => wrong is

/-- Checks both parts whatever the first one gives. -/
def seq (f : Checked (α → β)) (a : Unit → Checked α) : Checked β :=
  match f, a () with
  | ok f, ok a => ok (f a)
  | wrong is, ok _ => wrong is
  | ok _, wrong js => wrong js
  | wrong is, wrong js => wrong (is ++ js)

instance : Applicative Checked where
  pure := ok
  map := map
  seq := seq

/-- The second check depends on the first value. -/
def andThen (a : Checked α) (f : α → Checked β) : Checked β :=
  match a with
  | ok a => f a
  | wrong is => wrong is

def fail (kind : IssueKind) : Checked α := wrong [⟨[], kind⟩]

/-- Puts steps in front of the path of every issue. -/
def under (steps : List Step) : Checked α → Checked α
  | ok a => ok a
  | wrong is => wrong (is.map fun i => { i with path := steps ++ i.path })

def toOption : Checked α → Option α
  | ok a => some a
  | wrong _ => none

def issues : Checked α → List Issue
  | ok _ => []
  | wrong is => is

/-- Checks every member of a list under its place, from the given place on. -/
def traverse (f : α → Checked β) (place : Nat) : List α → Checked (List β)
  | [] => ok []
  | a :: as => List.cons <$> (f a).under [.place place] <*> traverse f (place + 1) as

end Checked

end BuildingQuery
