import BuildingQuery.Number.Binary

/-! The decimal text of a float: the fewest digits that read back as the same float, the nearest
of those, written positionally from `0.0001` up to sixteen whole digits and with an exponent
otherwise. -/

namespace BuildingQuery.Number

def digits (n : Nat) : List Char := (toString n).toList

/-- The number of decimal digits, none for zero. -/
def digitCount (n : Nat) : Nat := if n = 0 then 0 else (digits n).length

/-- The greatest power of ten that is at most a positive quotient. -/
def decimalPlace (num den : Nat) : Int :=
  if den ≤ num then digitCount (num / den) - 1
  else -digitCount ((den + num - 1) / num - 1)

/-- A magnitude `digits * 10 ^ exponent`. -/
structure Decimal where
  digits : Nat
  exponent : Int

def Decimal.num (d : Decimal) : Nat := d.digits * Nat.pow 10 d.exponent.toNat

def Decimal.den (d : Decimal) : Nat := Nat.pow 10 (-d.exponent).toNat

/-- The distance to a quotient, times both denominators. -/
def Decimal.distance (d : Decimal) (num den : Nat) : Nat :=
  let a := d.num * den
  let b := num * d.den
  max a b - min a b

/-- The nearer of the two neighbours of `num / den` on a decimal grid that reads back as `bits`. -/
def readBackAt (bits num den : Nat) (exponent : Int) : Option Decimal :=
  let low : Decimal :=
    ⟨num * Nat.pow 10 (-exponent).toNat / (den * Nat.pow 10 exponent.toNat), exponent⟩
  let high : Decimal := ⟨low.digits + 1, exponent⟩
  let readsBack (d : Decimal) : Bool := d.digits ≠ 0 && nearestBits d.num d.den == bits
  if readsBack low then
    if readsBack high && (high.distance num den < low.distance num den ||
        (high.distance num den == low.distance num den && low.digits % 2 == 1)) then some high
    else some low
  else if readsBack high then some high
  else none

/-- The shortest decimal that reads back as a positive float; seventeen digits always do. -/
def shortest (bits num den : Nat) : Decimal :=
  let place := decimalPlace num den
  ((List.range 17).findSome? fun (n : Nat) =>
    readBackAt bits num den (place - (n : Int))).getD ⟨0, 0⟩

def zeros (n : Nat) : List Char := List.replicate n '0'

/-- Digits with their point after the first `place` of them. -/
def positional (ds : List Char) (place : Int) : List Char :=
  if place ≤ 0 then ['0', '.'] ++ zeros (-place).toNat ++ ds
  else
    let places := place.toNat
    if ds.length ≤ places then ds ++ zeros (places - ds.length) ++ ['.', '0']
    else ds.take places ++ '.' :: ds.drop places

/-- Digits with the power of ten of the first, which has at least two digits. -/
def scientific (ds : List Char) (power : Int) : List Char :=
  let exponent := digits power.natAbs
  let fraction := match ds.drop 1 with
    | [] => []
    | rest => '.' :: rest
  ds.take 1 ++ fraction ++ ['e', if power < 0 then '-' else '+'] ++
    zeros (2 - exponent.length) ++ exponent

def trimZeros (ds : List Char) : List Char :=
  ((ds.reverse.dropWhile (· == '0')).reverse)

def magnitudeText (bits num den : Nat) : List Char :=
  if num = 0 then ['0', '.', '0']
  else
    let d := shortest bits num den
    let all := digits d.digits
    let power : Int := d.exponent + all.length - 1
    let ds := trimZeros all
    if -4 ≤ power && power < 16 then positional ds (power + 1) else scientific ds power

def text (x : Float) : String :=
  match binary? x with
  | some b =>
    let sign := if b.negative then ['-'] else []
    String.ofList (sign ++ magnitudeText (x.toBits.toNat % signBit) b.num b.den)
  | none => if x.isNaN then "nan" else if 0 < x then "inf" else "-inf"

end BuildingQuery.Number
