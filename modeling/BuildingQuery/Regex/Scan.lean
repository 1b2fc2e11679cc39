import BuildingQuery.Regex.Syntax
import BuildingQuery.Text.Case
import BuildingQuery.Text.CharClass
import BuildingQuery.Text.Identifier

/-! Reading the small parts of an expression: escapes, sets, counts and flags. An expression is read
as tokens, each a character or a backslash with the character after it. -/

namespace BuildingQuery.Regex

open Text

inductive Defect where
  | malformed
  /-- A count is at or above the limit. -/
  | hugeCount
  /-- It asks for the classes of ASCII and of all scripts at once. -/
  | scriptConflict
deriving DecidableEq

inductive Token where
  | plain (c : Char)
  | escaped (c : Char)
deriving DecidableEq

/-- A backslash needs a character after it. -/
def tokens? : List Char → Option (List Token)
  | [] => some []
  | ['\\'] => none
  | '\\' :: c :: s => (tokens? s).map (.escaped c :: ·)
  | c :: s => (tokens? s).map (.plain c :: ·)

/-- What is left to read, and what is known of the groups so far. -/
structure Scan where
  rest : List Token
  /-- Flags for the whole expression. -/
  flags : Flags
  /-- The width of each group from the zeroth on; an open group has none yet. -/
  groups : List (Option Width) := [none]
  names : List (String × Nat) := []
  /-- Inside a look behind, the number of groups before it. -/
  behindFrom : Option Nat := none
  /-- Groups that conditions ask for. -/
  asked : List Nat := []

abbrev Read := StateT Scan (Except Defect)

def malformed {α : Type} : Read α := throw .malformed

def next? : Read (Option Token) := do return (← get).rest.head?

def take? : Read (Option Token) := do
  let s ← get
  set { s with rest := s.rest.tail }
  return s.rest.head?

def take : Read Token := do
  match ← take? with
  | some t => return t
  | none => malformed

def accept (c : Char) : Read Bool := do
  let s ← get
  if s.rest.head? == some (.plain c) then
    set { s with rest := s.rest.tail }
    return true
  else return false

def takeWhile (limit : Nat) (p : Char → Bool) : Read (List Char) := do
  let s ← get
  let isIn : Token → Bool
    | .plain c => p c
    | .escaped _ => false
  let run := (s.rest.take limit).takeWhile isIn
  set { s with rest := s.rest.drop run.length }
  return run.filterMap fun
    | .plain c => some c
    | .escaped _ => none

def Token.chars : Token → List Char
  | .plain c => [c]
  | .escaped c => ['\\', c]

/-- Takes a text that is not empty, and the character that ends it. -/
def takeUntil (stop : Char) : Read (List Char) := do
  let s ← get
  let run := s.rest.takeWhile (· != .plain stop)
  if run.isEmpty || run.length == s.rest.length then malformed
  else
    set { s with rest := s.rest.drop (run.length + 1) }
    return run.flatMap Token.chars

def isHexDigit (c : Char) : Bool :=
  isAsciiDigit c || ('a' ≤ c && c ≤ 'f') || ('A' ≤ c && c ≤ 'F')

def isOctalDigit (c : Char) : Bool := '0' ≤ c && c ≤ '7'

def hexDigitValue (c : Char) : Nat :=
  if isAsciiDigit c then c.toNat - 48 else (asciiLowerDigit c).toNat - 87
where
  asciiLowerDigit (c : Char) : Char := if c < 'a' then Char.ofNat (c.toNat + 32) else c

def ofBase (base : Nat) (ds : List Char) : Nat :=
  ds.foldl (fun n d => n * base + hexDigitValue d) 0

def hexCode (count : Nat) : Read Nat := do
  let ds ← takeWhile count isHexDigit
  if ds.length == count then return ofBase 16 ds else malformed

def namedCode : Read Nat := do
  if ← accept '\x7b' then
    let name ← takeUntil '\x7d'
    match charNamed? (upper (String.ofList name)) with
    | some code => return code
    | none => malformed
  else malformed

/-- Letters that stand for a control character after a backslash. -/
def controlCode? : Char → Option Nat
  | 'a' => some 7
  | 'f' => some 12
  | 'n' => some 10
  | 'r' => some 13
  | 't' => some 9
  | 'v' => some 11
  | '\\' => some 92
  | _ => none

def classOf? : Char → Option CharClass
  | 'd' => some ⟨.digit, false⟩
  | 'D' => some ⟨.digit, true⟩
  | 's' => some ⟨.space, false⟩
  | 'S' => some ⟨.space, true⟩
  | 'w' => some ⟨.word, false⟩
  | 'W' => some ⟨.word, true⟩
  | _ => none

def anchorOf? : Char → Option Anchor
  | 'A' => some .textStart
  | 'Z' => some .textEnd
  | 'b' => some .boundary
  | 'B' => some .noBoundary
  | _ => none

/-- Escapes that give a character by its code or name, and any sign that is no letter. -/
def escapedCode (c : Char) : Read Nat := do
  match c with
  | 'x' => hexCode 2
  | 'u' => hexCode 4
  | 'U' =>
    let code ← hexCode 8
    if code < 0x110000 then return code else malformed
  | 'N' => namedCode
  | c => if isAsciiLetter c then malformed else return c.toNat

/-- An octal code is at most `377`. -/
def octalCode (ds : List Char) : Read Nat := do
  let code := ofBase 8 ds
  if code ≤ 255 then return code else malformed

def setEscape (c : Char) : Read SetItem := do
  if c == 'b' then return .char 8
  else match controlCode? c, classOf? c with
    | some code, _ => return .char code
    | _, some k => return .cls k
    | none, none =>
      if isOctalDigit c then
        let more ← takeWhile 2 isOctalDigit
        return .char (← octalCode (c :: more))
      else if isAsciiDigit c then malformed
      else return .char (← escapedCode c)

/-- A group that is complete, and that was not opened inside the look behind being read. -/
def groupWidth (g : Nat) : Read Width := do
  match (← get).groups[g]? with
  | some (some w) => return w
  | _ => malformed

/-- Inside a look behind only complete groups from before it may be named. -/
def checkBehind (g : Nat) : Read Unit := do
  match (← get).behindFrom with
  | none => return
  | some first =>
    let _ ← groupWidth g
    if g < first then return else malformed

def backref (g : Nat) : Read Node := do
  let w ← groupWidth g
  checkBehind g
  return .backref g w

/-- Digits after a backslash: an octal code if there are three, else the number of a group. -/
def numberEscape (c : Char) : Read Node := do
  match ← takeWhile 1 isAsciiDigit with
  | [d] =>
    if isOctalDigit c && isOctalDigit d then
      match ← takeWhile 1 isOctalDigit with
      | [] => backref (ofBase 10 [c, d])
      | e => return .char (← octalCode (c :: d :: e))
    else backref (ofBase 10 [c, d])
  | _ => backref (ofBase 10 [c])

def escape (c : Char) : Read Node := do
  match classOf? c, anchorOf? c, controlCode? c with
  | some k, _, _ => return .set false [.cls k]
  | _, some a, _ => return .anchor a
  | _, _, some code => return .char code
  | none, none, none =>
    if c == '0' then
      let more ← takeWhile 2 isOctalDigit
      return .char (ofBase 8 (c :: more))
    else if isAsciiDigit c then numberEscape c
    else return .char (← escapedCode c)

def setPart : Token → Read SetItem
  | .plain c => return .char c.toNat
  | .escaped c => setEscape c

/-- The items of a set up to its end. A bracket that comes first is an item. -/
def setItems : (fuel : Nat) → List SetItem → Read (List SetItem)
  | 0, _ => malformed
  | fuel + 1, items => do
    let t ← take
    if t == .plain ']' && !items.isEmpty then return items
    else
      let low ← setPart t
      if ← accept '-' then
        let u ← take
        if u == .plain ']' then return items ++ [low, .char 45]
        else
          match low, ← setPart u with
          | .char a, .char b =>
            if b < a then malformed else setItems fuel (items ++ [.range a b])
          | _, _ => malformed
      else setItems fuel (items ++ [low])

/-- A set after its opening bracket; one of a single character is that character. -/
def charSet : Read Node := do
  let negated ← accept '^'
  let items := (← setItems ((← get).rest.length + 1) []).eraseDups
  match items with
  | [.char code] => return if negated then .otherChar code else .char code
  | items => return .set negated items

/-- A count below the limit. -/
def count (ds : List Char) : Read Nat := do
  let n := ofBase 10 ds
  if n < countLimit then return n else throw .hugeCount

/-- Counts between braces, after the opening one; nothing is taken where there are none. -/
def counts? : Read (Option (Nat × Option Nat)) := do
  let start ← get
  if start.rest.head? == some (.plain '\x7d') then return none
  else
    let low ← takeWhile start.rest.length isAsciiDigit
    let high ← if ← accept ',' then takeWhile start.rest.length isAsciiDigit else pure low
    if ← accept '\x7d' then
      let least ← if low.isEmpty then pure 0 else count low
      if high.isEmpty then return some (least, none)
      else
        let most ← count high
        if most < least then malformed else return some (least, some most)
    else
      set start
      return none

def flagOf? : Char → Option Flags
  | 'i' => some { ignoreCase := true }
  | 'm' => some { multiline := true }
  | 's' => some { dotAll := true }
  | 'x' => some { verbose := true }
  | 'a' => some { ascii := true }
  | 'u' => some { unicode := true }
  | 't' => some { template := true }
  | _ => none

/-- Flags to switch on from a first one, and the sign after them. Only one choice of scripts may
stand among them. -/
def flagsOn : (fuel : Nat) → Flags → Token → Read (Flags × Char)
  | fuel + 1, on, .plain c => do
    match flagOf? c with
    | none => malformed
    | some f =>
      let on := on.union f
      if on.ascii && on.unicode then malformed
      else match ← take with
        | .plain ')' => return (on, ')')
        | .plain '-' => return (on, '-')
        | .plain ':' => return (on, ':')
        | t => flagsOn fuel on t
  | _, _, _ => malformed

/-- Flags to switch off from a first one, up to the colon. -/
def flagsOff : (fuel : Nat) → Flags → Token → Read Flags
  | fuel + 1, off, .plain c => do
    match flagOf? c with
    | none => malformed
    | some f =>
      if f.ascii || f.unicode then malformed
      else match ← take with
        | .plain ':' => return off.union f
        | t => flagsOff fuel (off.union f) t
  | _, _, _ => malformed

/-- Flags after a question mark: for the whole expression, or for a group that begins. -/
def inlineFlags (first : Token) : Read (Option (Flags × Flags)) := do
  let fuel := (← get).rest.length + 1
  let (on, stop) ← if first == .plain '-' then pure (Flags.none, '-')
    else flagsOn fuel .none first
  if stop == ')' then
    modify fun s => { s with flags := s.flags.union on }
    return none
  else if on.template then malformed
  else
    let off ← if stop == '-' then flagsOff fuel .none (← take) else pure .none
    if off.template || on.meets off then malformed
    else return some (on, off)

end BuildingQuery.Regex
