import BuildingQuery.Ordered

/-! How similar two names are, and which of several names come closest to one.

Similarity is the share of characters in common blocks: the longest common block, then those to its
left and to its right. In a long name a character that is too frequent starts no block. -/

namespace BuildingQuery.Similarity

/-- A character of a name of two hundred or more that makes up more than a hundredth of it. -/
def isFrequent (name : List Char) (c : Char) : Bool :=
  200 ≤ name.length && name.length / 100 + 1 < name.count c

/-- A common block: its places in two texts, and its length. -/
structure Block where
  left : Nat
  right : Nat
  size : Nat

/-- Lengths of the common blocks that end at a character and at each place of a text, from the
lengths one character earlier. -/
def blockRow (seeds : Char → Bool) (c : Char) : List Char → (diagonal : Nat) → List Nat → List Nat
  | [], _, _ => []
  | d :: ds, diagonal, above =>
    (if c == d && seeds c then diagonal + 1 else 0) ::
      blockRow seeds c ds (above.headD 0) above.tail

/-- The first longest of the blocks that end in a row, if it is longer than the best so far. -/
def betterInRow (i : Nat) (best : Block) (row : List Nat) : Block :=
  (row.foldl (fun (b, j) size =>
    (if b.size < size then ⟨i + 1 - size, j + 1 - size, size⟩ else b, j + 1)) (best, 0)).1

def longestFrom (seeds : Char → Bool) (b : List Char) :
    (i : Nat) → (above : List Nat) → Block → List Char → Block
  | _, _, best, [] => best
  | i, above, best, c :: a =>
    let row := blockRow seeds c b 0 above
    longestFrom seeds b (i + 1) row (betterInRow i best row) a

def commonLength : List Char → List Char → Nat
  | c :: a, d :: b => if c == d then commonLength a b + 1 else 0
  | _, _ => 0

/-- The longest common block, extended at both ends as far as the texts agree. -/
def longest (seeds : Char → Bool) (a b : List Char) : Block :=
  let block := longestFrom seeds b 0 [] ⟨0, 0, 0⟩ a
  let before := commonLength (a.take block.left).reverse (b.take block.right).reverse
  let after := commonLength (a.drop (block.left + block.size)) (b.drop (block.right + block.size))
  ⟨block.left - before, block.right - before, before + block.size + after⟩

/-- The number of characters in common blocks. Every block shortens the texts, which bounds the
steps. -/
def common (seeds : Char → Bool) : (fuel : Nat) → List Char → List Char → Nat
  | 0, _, _ => 0
  | fuel + 1, a, b =>
    let block := longest seeds a b
    if block.size = 0 then 0
    else block.size + common seeds fuel (a.take block.left) (b.take block.right) +
      common seeds fuel (a.drop (block.left + block.size)) (b.drop (block.right + block.size))

/-- The similarity of a known name to a wanted one, as a quotient. -/
structure Ratio where
  num : Nat
  den : Nat

def ratio (wanted known : String) : Ratio :=
  let a := known.toList
  let b := wanted.toList
  let length := a.length + b.length
  if length = 0 then ⟨1, 1⟩
  else ⟨2 * common (fun c => !isFrequent b c) (a.length + 1) a b, length⟩

def Ratio.less (r s : Ratio) : Bool := r.num * s.den < s.num * r.den

def Ratio.isClose (r : Ratio) : Bool := 2 * r.den ≤ 5 * r.num

/-- The known names that are close to a wanted one, the closest first and of equally close ones the
last in the order of their characters. -/
def close (wanted : String) (known : List String) : List String :=
  let rated := (known.map fun k => (ratio wanted k, k)).filter (·.1.isClose)
  (rated.mergeSort fun (r, s) (q, t) => q.less r || (!r.less q && t ≤ s)).map (·.2)

/-- The most names that are suggested. -/
def limit : Nat := 5

/-- Suggestions: the closest names, then the others in order. -/
def suggested (wanted : String) (known : List String) : List String :=
  let near := (close wanted known).take limit
  (near ++ known.filter (!near.contains ·)).take limit

end BuildingQuery.Similarity
