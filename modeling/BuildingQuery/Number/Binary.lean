/-! Binary floating-point numbers as exact quotients, and the nearest such number to a quotient. -/

namespace BuildingQuery.Number

/-- A finite floating-point number, `± mantissa * 2 ^ exponent`. -/
structure Binary where
  negative : Bool
  mantissa : Nat
  exponent : Int

/-- The numerator of the magnitude as a quotient whose denominator is a power of two. -/
def Binary.num (b : Binary) : Nat := b.mantissa <<< b.exponent.toNat

def Binary.den (b : Binary) : Nat := 1 <<< (-b.exponent).toNat

/-- The bit that is set for negative numbers, above all others. -/
def signBit : Nat := 1 <<< 63

/-- The unit of the exponent in a bit pattern, and the leading bit that patterns leave out of a
mantissa. -/
def leadingBit : Nat := 1 <<< 52

/-- Bits of the positive infinity; bits at or above it are no finite magnitude. -/
def infinityBits : Nat := 0x7FF * leadingBit

def Binary.ofBits? (bits : Nat) : Option Binary :=
  let magnitude := bits % signBit
  let scale := magnitude / leadingBit
  if magnitude < infinityBits then
    some {
      negative := signBit ≤ bits
      mantissa := if scale = 0 then magnitude else magnitude % leadingBit + leadingBit
      exponent := (if scale = 0 then 1 else scale : Nat) - 1075 }
  else none

/-- The exact value of a float; infinities and not-a-number have none. -/
def binary? (x : Float) : Option Binary := Binary.ofBits? x.toBits.toNat

/-- A quotient rounded to a whole number, a half going to the even neighbour. -/
def roundDiv (num den : Nat) : Nat :=
  let low := num / den
  let rest := 2 * (num % den)
  if rest < den then low
  else if den < rest then low + 1
  else low + low % 2

/-- Bits of the float nearest to the quotient of positive numbers. The unit in the last place is
`2 ^ q`; a mantissa that rounds up to the next power of two carries into the exponent. -/
def nearestBits (num den : Nat) : Nat :=
  let scaled (q : Int) : Nat × Nat := (num <<< (-q).toNat, den <<< q.toNat)
  let q : Int := max ((num.log2 : Int) - den.log2 - 53) (-1074)
  let (n, d) := scaled q
  let q := if d <<< 53 ≤ n then q + 1 else q
  let (n, d) := scaled q
  min ((q + 1074).toNat * leadingBit + roundDiv n d) infinityBits

/-- The float nearest to a signed quotient, an infinity if it is too large. -/
def ofRatio (negative : Bool) (num den : Nat) : Float :=
  let magnitude := if num = 0 then 0 else nearestBits num den
  Float.ofBits (UInt64.ofNat (magnitude + if negative then signBit else 0))

def infinity : Float := Float.ofBits (UInt64.ofNat infinityBits)

def notANumber : Float := Float.ofBits 0x7FF8000000000000

/-- The float nearest to an integer, if the integer is not too large for one. -/
def ofInt? (n : Int) : Option Float :=
  let x := ofRatio (n < 0) n.natAbs 1
  if x.isFinite then some x else none

/-- The integer that a float without a fraction stands for. -/
def int? (x : Float) : Option Int := do
  let b ← binary? x
  if b.num % b.den = 0 then
    let magnitude : Int := b.num / b.den
    some (if b.negative then -magnitude else magnitude)
  else none

def truncate (x : Float) : Int :=
  match binary? x with
  | none => 0
  | some b =>
    let magnitude : Int := (b.num / b.den : Nat)
    if b.negative then -magnitude else magnitude

end BuildingQuery.Number
