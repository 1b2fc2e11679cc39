import BuildingQuery.Number.Reader
import BuildingQuery.Value

/-! The tokens of JSON text. Blanks between them are dropped; a number without a point and without
an exponent is an integer; the words for the infinities and for what is not a number are numbers. -/

namespace BuildingQuery.Json

open Text Number

inductive Token where
  | openList
  | closeList
  | openMap
  | closeMap
  | comma
  | colon
  | atom (v : Value)

def isLayout (c : Char) : Bool := c == ' ' || c == '\t' || c == '\n' || c == '\r'

def hexValue? (c : Char) : Option Nat :=
  if isAsciiDigit c then some (c.toNat - 48)
  else if 'a' ≤ c && c ≤ 'f' then some (c.toNat - 87)
  else if 'A' ≤ c && c ≤ 'F' then some (c.toNat - 55)
  else none

def unit? (a b c d : Char) : Option Nat := do
  some ((((← hexValue? a) * 16 + (← hexValue? b)) * 16 + (← hexValue? c)) * 16 + (← hexValue? d))

def escape? : Char → Option Char
  | '"' => some '"'
  | '\\' => some '\\'
  | '/' => some '/'
  | 'b' => some (Char.ofNat 8)
  | 'f' => some (Char.ofNat 12)
  | 'n' => some '\n'
  | 'r' => some '\r'
  | 't' => some '\t'
  | _ => none

/-- The pieces that a string is written with. -/
inductive Piece where
  | char (c : Char)
  | high (unit : Nat)
  | low (unit : Nat)

def pieceOfUnit (u : Nat) : Piece :=
  if 0xD800 ≤ u && u < 0xDC00 then .high u
  else if 0xDC00 ≤ u && u < 0xE000 then .low u
  else .char (Char.ofNat u)

/-- A string up to its closing mark, as pieces, and what follows. Control characters must be
escaped. -/
def splitString : List Char → Option (List Piece × List Char)
  | [] => none
  | '"' :: rest => some ([], rest)
  | '\\' :: 'u' :: a :: b :: c :: d :: s => do
    let u ← unit? a b c d
    let (pieces, rest) ← splitString s
    some (pieceOfUnit u :: pieces, rest)
  | '\\' :: e :: s => do
    let c ← escape? e
    let (pieces, rest) ← splitString s
    some (.char c :: pieces, rest)
  | c :: s => do
    if c.toNat < 32 || c == '\\' then none
    else
      let (pieces, rest) ← splitString s
      some (.char c :: pieces, rest)

/-- The characters of the pieces; halves of a pair stand only side by side. -/
def joinPieces? : List Piece → Option (List Char)
  | [] => some []
  | .char c :: ps => (joinPieces? ps).map (c :: ·)
  | .high u :: .low v :: ps =>
    (joinPieces? ps).map (Char.ofNat (0x10000 + (u - 0xD800) * 0x400 + (v - 0xDC00)) :: ·)
  | _ => none

/-- A number: no zero before other digits, digits on both sides of a point. -/
def number? (s : List Char) : Option Value :=
  let (negative, unsigned) := match s with
    | '-' :: s => (true, s)
    | s => (false, s)
  let (whole, rest) := splitDigits unsigned
  if whole.isEmpty || (whole.head? == some 0 && 1 < whole.length) then none
  else match rest with
    | [] =>
      let n : Int := ofDigits whole
      some (.int (if negative then -n else n))
    | '.' :: rest =>
      if (splitDigits rest).1.isEmpty then none else (decimal? negative unsigned).map .float
    | _ => (decimal? negative unsigned).map .float

def word? (s : List Char) : Option Value :=
  match String.ofList s with
  | "null" => some .null
  | "true" => some (.bool true)
  | "false" => some (.bool false)
  | "NaN" => some (.float notANumber)
  | "Infinity" => some (.float infinity)
  | "-Infinity" => some (.float (-infinity))
  | _ => none

def isAtomChar (c : Char) : Bool :=
  isAsciiLetter c || isAsciiDigit c || c == '-' || c == '+' || c == '.'

def mark? : Char → Option Token
  | '[' => some .openList
  | ']' => some .closeList
  | '\x7b' => some .openMap
  | '\x7d' => some .closeMap
  | ',' => some .comma
  | ':' => some .colon
  | _ => none

theorem length_splitString {s : List Char} {p : List Piece × List Char}
    (h : splitString s = some p) : p.2.length < s.length := by
  fun_induction splitString s generalizing p with
  | case1 => simp at h
  | case2 rest => obtain rfl := Option.some.inj h; simp
  | case3 a b c d s ih =>
    obtain ⟨u, _, h⟩ := Option.bind_eq_some_iff.1 h
    obtain ⟨q, hq, h⟩ := Option.bind_eq_some_iff.1 h
    obtain rfl := Option.some.inj h
    have := ih hq
    simp only [List.length_cons]; omega
  | case4 e s _ ih =>
    obtain ⟨u, _, h⟩ := Option.bind_eq_some_iff.1 h
    obtain ⟨q, hq, h⟩ := Option.bind_eq_some_iff.1 h
    obtain rfl := Option.some.inj h
    have := ih hq
    simp only [List.length_cons]; omega
  | case5 => simp at h
  | case6 c s _ _ _ _ ih =>
    obtain ⟨q, hq, h⟩ := Option.bind_eq_some_iff.1 h
    obtain rfl := Option.some.inj h
    have := ih hq
    simp only [List.length_cons]; omega

theorem length_dropWhile_le (p : Char → Bool) (s : List Char) :
    (s.dropWhile p).length ≤ s.length := by
  induction s with
  | nil => simp
  | cons c s ih =>
    simp only [List.dropWhile_cons]
    split
    · simp only [List.length_cons]; omega
    · simp

def tokens? : List Char → Option (List Token)
  | [] => some []
  | c :: s =>
    if isLayout c then tokens? s
    else match mark? c with
      | some t => (tokens? s).map (t :: ·)
      | none =>
        if c = '"' then
          match h : splitString s with
          | none => none
          | some (pieces, rest) =>
            have : rest.length < s.length := length_splitString h
            match joinPieces? pieces with
            | none => none
            | some cs => (tokens? rest).map (.atom (.str (String.ofList cs)) :: ·)
        else
          have := length_dropWhile_le isAtomChar s
          let atom := c :: s.takeWhile isAtomChar
          match (word? atom).or (number? atom) with
          | none => none
          | some v => (tokens? (s.dropWhile isAtomChar)).map (.atom v :: ·)
termination_by s => s.length
decreasing_by all_goals simp; try omega

end BuildingQuery.Json
