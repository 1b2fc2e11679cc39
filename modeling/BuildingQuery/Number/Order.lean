import BuildingQuery.Number.Binary

/-! The order of integers and floats among each other, by their exact values. -/

namespace BuildingQuery.Number

/-- An integer against a float; nothing compares with a value that is not a number. -/
def compareIntFloat (n : Int) (x : Float) : Option Ordering :=
  if x.isNaN then none
  else match binary? x with
    | none => some (if 0 < x then .lt else .gt)
    | some b =>
      let magnitude : Int := b.num
      some (compare (n * b.den) (if b.negative then -magnitude else magnitude))

def compareFloats (x y : Float) : Option Ordering :=
  if x < y then some .lt else if y < x then some .gt else if x == y then some .eq else none

end BuildingQuery.Number
