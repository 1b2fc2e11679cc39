/-! Character classes given by the sorted bounds of their runs: an even place of the table starts a
run and the odd place after it is the first code point past the run. -/

namespace BuildingQuery.Text

/-- The first place from `lo` to `hi` whose bound exceeds `c`, or `hi` if there is none. -/
def boundsUpTo (bounds : Array Nat) (c lo hi : Nat) : Nat :=
  if lo < hi then
    let mid := (lo + hi) / 2
    if bounds.getD mid 0 ≤ c then boundsUpTo bounds c (mid + 1) hi
    else boundsUpTo bounds c lo mid
  else lo
termination_by hi - lo

/-- A code point is in a run iff an odd number of bounds are at most it. -/
def inRuns (bounds : Array Nat) (c : Nat) : Bool :=
  boundsUpTo bounds c 0 bounds.size % 2 == 1

end BuildingQuery.Text
