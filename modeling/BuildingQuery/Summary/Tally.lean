import BuildingQuery.OrderedMap
import BuildingQuery.Ordered

/-! Counting, in the order in which things first come. -/

namespace BuildingQuery

variable {κ α : Type} [BEq κ]

def tally (ks : List κ) : OrderedMap κ Nat :=
  ks.foldl (fun m k => m.put k ((m.get? k).getD 0 + 1)) []

def mostCommon (ks : List κ) : List (κ × Nat) := Ordered.byCount (·.2) (tally ks)

def grouped (es : List (κ × α)) : OrderedMap κ (List α) :=
  es.foldl (fun m e => m.push e.1 e.2) []

end BuildingQuery
