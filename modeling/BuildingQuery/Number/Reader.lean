import BuildingQuery.Number.Binary
import BuildingQuery.Text.CharClass

/-! Reading numbers written in decimal: plain integers, fractions with an exponent, and the words
for the infinities and for what is not a number. -/

namespace BuildingQuery.Number

open Text

/-- The number whose decimal digits are given, the highest first. -/
def ofDigits (ds : List Nat) : Nat := ds.foldl (fun n d => n * 10 + d) 0

def splitSign : List Char → Bool × List Char
  | '-' :: s => (true, s)
  | '+' :: s => (false, s)
  | s => (false, s)

def splitDigits : List Char → List Nat × List Char
  | [] => ([], [])
  | c :: s =>
    if isAsciiDigit c then
      let (ds, rest) := splitDigits s
      ((c.toNat - 48) :: ds, rest)
    else ([], c :: s)

/-- The float nearest to `digits * 10 ^ exponent`. Powers of ten beyond the range of floats are not
worked out. -/
def ofDecimal (negative : Bool) (ds : List Nat) (exponent : Int) : Float :=
  let ds := ds.dropWhile (· == 0)
  let size : Int := ds.length + exponent
  if ds.isEmpty || size < -400 then ofRatio negative 0 1
  else if 400 < size then if negative then -infinity else infinity
  else ofRatio negative (ofDigits ds * Nat.pow 10 exponent.toNat) (Nat.pow 10 (-exponent).toNat)

/-- The exponent that may end a decimal number; the text must end with it. -/
def exponent? : List Char → Option Int
  | [] => some 0
  | c :: s =>
    if c == 'e' || c == 'E' then
      let (negative, s) := splitSign s
      match splitDigits s with
      | ([], _) => none
      | (ds, []) => some (if negative then -(ofDigits ds) else ofDigits ds)
      | _ => none
    else none

/-- An unsigned decimal number: digits on at least one side of the point. -/
def decimal? (negative : Bool) (s : List Char) : Option Float :=
  let (whole, rest) := splitDigits s
  let (fraction, rest) := match rest with
    | '.' :: rest => splitDigits rest
    | rest => ([], rest)
  if whole.isEmpty && fraction.isEmpty then none
  else do
    let exponent ← exponent? rest
    some (ofDecimal negative (whole ++ fraction) (exponent - fraction.length))

def asciiLower (c : Char) : Char := if 'A' ≤ c && c ≤ 'Z' then Char.ofNat (c.toNat + 32) else c

/-- A whole text as a float: a decimal number or a word, with a sign. -/
def float? (s : List Char) : Option Float :=
  let (negative, s) := splitSign s
  let word := String.ofList (s.map asciiLower)
  if word == "inf" || word == "infinity" then some (if negative then -infinity else infinity)
  else if word == "nan" then some notANumber
  else decimal? negative s

/-- The text without the underscores that stand between two digits, unless another underscore is
left. -/
def joinGroups? : List Char → Option (List Char)
  | [] => some []
  | '_' :: _ => none
  | c :: '_' :: d :: s =>
    if isAsciiDigit c && isAsciiDigit d then (joinGroups? (d :: s)).map (c :: ·) else none
  | c :: s => (joinGroups? s).map (c :: ·)

/-- A text of digits of any script and blanks, with the digits in their common form and every
other character beyond ASCII replaced by one that no number holds. -/
def foldDigits (s : List Char) : List Char :=
  s.map fun c =>
    if c.toNat < 128 then c
    else match digitValue? c with
      | some d => Char.ofNat (48 + d)
      | none => '?'

/-- A number as people write it: blanks around it, digits of any script, groups of digits joined by
underscores. -/
def ofText? (s : List Char) : Option Float :=
  (joinGroups? (foldDigits (trimWith isSpace s))).bind float?

end BuildingQuery.Number
