import BuildingQuery.Text.CharClass

/-! Text between quotes: an apostrophe at both ends, or a quotation mark if the text has
apostrophes and no quotation mark. Characters that do not print are written by their codes. -/

namespace BuildingQuery.Text

def hexDigit (n : Nat) : Char := if n < 10 then Char.ofNat (48 + n) else Char.ofNat (87 + n)

/-- The last `width` hexadecimal digits of a number. -/
def hexText (n : Nat) : (width : Nat) → List Char
  | 0 => []
  | width + 1 => hexText (n / 16) width ++ [hexDigit (n % 16)]

def codeText (n : Nat) : List Char :=
  if n < 0x100 then '\\' :: 'x' :: hexText n 2
  else if n < 0x10000 then '\\' :: 'u' :: hexText n 4
  else '\\' :: 'U' :: hexText n 8

def quotedChar (mark c : Char) : List Char :=
  if c == mark || c == '\\' then ['\\', c]
  else if c == '\n' then ['\\', 'n']
  else if c == '\r' then ['\\', 'r']
  else if c == '\t' then ['\\', 't']
  else if isPrintable c then [c]
  else codeText c.toNat

def quoted (s : String) : String :=
  let cs := s.toList
  let mark := if cs.contains '\'' && !cs.contains '"' then '"' else '\''
  String.ofList (mark :: cs.flatMap (quotedChar mark) ++ [mark])

end BuildingQuery.Text
