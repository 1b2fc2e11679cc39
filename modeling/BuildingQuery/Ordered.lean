/-! Sorting by keys whose order may leave pairs undecided. A stretch that is in order already, or
falls all the way, is taken as it is; every further item goes behind the last one that it does not
come before, found by halving. Where the order is total this is the stable sorting. -/

namespace BuildingQuery.Ordered

variable {α : Type}

/-- The first place from `lo` to `hi` with an item that `x` comes before, by halving. -/
def placeFor (less : α → α → Bool) (sorted : Array α) (x : α) (lo hi : Nat) : Nat :=
  if h : lo < hi then
    let mid := (lo + hi) / 2
    if (sorted[mid]?).any (less x) then placeFor less sorted x lo mid
    else placeFor less sorted x (mid + 1) hi
  else lo
termination_by hi - lo

def insert (less : α → α → Bool) (sorted : List α) (x : α) : List α :=
  let place := placeFor less sorted.toArray x 0 sorted.length
  sorted.take place ++ x :: sorted.drop place

/-- The longest start whose neighbours all stand as asked, and the rest. -/
def splitRun (stand : α → α → Bool) : α → List α → List α × List α
  | a, b :: bs =>
    if stand a b then
      let (run, rest) := splitRun stand b bs
      (a :: run, rest)
    else ([a], b :: bs)
  | a, [] => ([a], [])

def sort (less : α → α → Bool) : List α → List α
  | a :: b :: rest =>
    let (run, rest) :=
      if less b a then
        let (run, rest) := splitRun (fun x y => less y x) a (b :: rest)
        (run.reverse, rest)
      else splitRun (fun x y => !less y x) a (b :: rest)
    rest.foldl (insert less) run
  | as => as

/-- The least of a list that starts with `a`, by a fold that keeps what is not beaten. -/
def least (less : α → α → Bool) (a : α) (as : List α) : α :=
  as.foldl (fun m x => if less x m then x else m) a

def greatest (less : α → α → Bool) (a : α) (as : List α) : α :=
  as.foldl (fun m x => if less m x then x else m) a

/-- Sorted by falling counts; what has the same count keeps its order. -/
def byCount (count : α → Nat) (as : List α) : List α :=
  as.mergeSort fun a b => count b ≤ count a

def texts (ss : List String) : List String := ss.mergeSort fun s t => s ≤ t

end BuildingQuery.Ordered
