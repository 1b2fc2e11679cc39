import BuildingQuery.Regex.Syntax
import BuildingQuery.Text.Case

/-! Which characters a single place of an expression stands for, with and without regard to case. -/

namespace BuildingQuery.Regex

open Text

def asciiLower (c : Char) : Char := if 'A' ≤ c && c ≤ 'Z' then Char.ofNat (c.toNat + 32) else c

/-- The lower form of a character in the scripts that the flags choose. -/
def Flags.lower (f : Flags) (c : Char) : Char := if f.unicode then lowerChar c else asciiLower c

/-- The code of a lower form, or the code itself where no character has it. -/
def Flags.lowerCode (f : Flags) (code : Nat) : Nat :=
  if code.isValidChar then (f.lower (Char.ofNat code)).toNat else code

def ClassKind.holds (f : Flags) (c : Char) : ClassKind → Bool
  | .digit => if f.unicode then isDigit c else isAsciiDigit c
  | .space => if f.unicode then isSpace c else c == ' ' || (9 ≤ c.toNat && c.toNat ≤ 13)
  | .word => if f.unicode then isWordChar c else isAsciiLetter c || isAsciiDigit c || c == '_'

def CharClass.holds (f : Flags) (c : Char) (k : CharClass) : Bool :=
  k.kind.holds f c != k.negated

/-- Lower forms that stand for one another. -/
def Flags.twins (f : Flags) (low : Char) : List Nat :=
  low.toNat :: if f.unicode then twinsOf low else []

/-- A character outside a set. -/
def charHolds (f : Flags) (c : Char) (code : Nat) : Bool :=
  if f.ignoreCase then (f.twins (f.lower c)).contains (f.lowerCode code) else c.toNat == code

/-- The codes whose lower form is a given code. -/
def upperSources (f : Flags) (low : Nat) : List Nat :=
  let ascii := if 97 ≤ low && low ≤ 122 then [low - 32] else []
  let own := if f.lowerCode low == low then [low] else []
  if f.unicode then
    own ++ ascii ++ (if low == 105 then [304] else []) ++
      Table.lowerRuns.filterMap fun r =>
        if r.image ≤ low && low - r.image ≤ r.last - r.first && (low - r.image) % r.step == 0 then
          some (r.first + (low - r.image))
        else none
  else own ++ ascii

/-- A part of a set, tried on a character or, where case does not count, on its lower form. Beyond
the first plane a single code stands for itself, and a range also for the upper forms in it. -/
def SetItem.holds (f : Flags) (c : Char) : SetItem → Bool
  | .cls k => k.holds f c
  | .char code =>
    if f.ignoreCase && f.lowerCode code < 0x10000 then (f.twins c).contains (f.lowerCode code)
    else c.toNat == code
  | .range low high =>
    let inRange (n : Nat) : Bool := low ≤ n && n ≤ high
    if f.ignoreCase then
      ((f.twins c).any fun t => (upperSources f t).any fun n => inRange n && n < 0x10000) ||
        (0x10000 ≤ high && (inRange c.toNat || ((upperChars c).head?.any fun u => inRange u.toNat)))
    else inRange c.toNat

def setHolds (f : Flags) (c : Char) (negated : Bool) (items : List SetItem) : Bool :=
  let c := if f.ignoreCase then f.lower c else c
  items.any (·.holds f c) != negated

end BuildingQuery.Regex
