import BuildingQuery.Text.Runs
import BuildingQuery.Text.Table.Alphanumeric
import BuildingQuery.Text.Table.CaseContext
import BuildingQuery.Text.Table.Decimal
import BuildingQuery.Text.Table.Printable

/-! The character classes that trimming, quoting, number reading and expressions rely on. -/

namespace BuildingQuery.Text

/-- Blanks, line ends and the separators of information processing. -/
def isSpace (c : Char) : Bool :=
  let n := c.toNat
  (9 ≤ n && n ≤ 13) || (28 ≤ n && n ≤ 32) || n == 133 || n == 160 || n == 5760 ||
    (8192 ≤ n && n ≤ 8202) || n == 8232 || n == 8233 || n == 8239 || n == 8287 || n == 12288

/-- Blanks and line ends, without the four information separators. -/
def isBlank (c : Char) : Bool :=
  isSpace c && !(28 ≤ c.toNat && c.toNat ≤ 31)

def isWordChar (c : Char) : Bool := c == '_' || inRuns Table.alphanumeric c.toNat

def isPrintable (c : Char) : Bool := inRuns Table.printable c.toNat

def isCaseIgnorable (c : Char) : Bool := inRuns Table.caseIgnorable c.toNat

/-- Has case and is not skipped by a look at the neighbouring letters. -/
def isCased (c : Char) : Bool := inRuns Table.cased c.toNat

def isAsciiDigit (c : Char) : Bool := '0' ≤ c && c ≤ '9'

def isAsciiLetter (c : Char) : Bool := ('a' ≤ c && c ≤ 'z') || ('A' ≤ c && c ≤ 'Z')

/-- The value of a decimal digit of any script. -/
def digitValue? (c : Char) : Option Nat :=
  let n := c.toNat
  if n < 128 then
    if isAsciiDigit c then some (n - 48) else none
  else
    let place := boundsUpTo Table.zeros n 0 Table.zeros.size
    let base := Table.zeros.getD (place - 1) 0
    if 0 < place && n - base < 10 then some (n - base) else none

def isDigit (c : Char) : Bool := (digitValue? c).isSome

/-- The text without the characters of a class at both ends. -/
def trimWith (drop : Char → Bool) (s : List Char) : List Char :=
  (((s.dropWhile drop).reverse).dropWhile drop).reverse

end BuildingQuery.Text
