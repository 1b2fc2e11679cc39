/-! Regular expressions as trees. Nodes stand in sequences; characters are given by their codes, so
that an expression may name a code that no text holds. -/

namespace BuildingQuery.Regex

/-- What an expression can switch on, for the whole or for one group. -/
structure Flags where
  ignoreCase : Bool := false
  /-- Line anchors also hold at inner line ends. -/
  multiline : Bool := false
  /-- The point also stands for a line end. -/
  dotAll : Bool := false
  /-- Blanks and comments are layout. -/
  verbose : Bool := false
  /-- Classes and case are those of ASCII. -/
  ascii : Bool := false
  /-- Classes and case are those of all scripts. -/
  unicode : Bool := false
  /-- Nothing may be repeated. -/
  template : Bool := false
deriving DecidableEq

namespace Flags

def none : Flags := {}

def union (f g : Flags) : Flags where
  ignoreCase := f.ignoreCase || g.ignoreCase
  multiline := f.multiline || g.multiline
  dotAll := f.dotAll || g.dotAll
  verbose := f.verbose || g.verbose
  ascii := f.ascii || g.ascii
  unicode := f.unicode || g.unicode
  template := f.template || g.template

def without (f g : Flags) : Flags where
  ignoreCase := f.ignoreCase && !g.ignoreCase
  multiline := f.multiline && !g.multiline
  dotAll := f.dotAll && !g.dotAll
  verbose := f.verbose && !g.verbose
  ascii := f.ascii && !g.ascii
  unicode := f.unicode && !g.unicode
  template := f.template && !g.template

def meets (f g : Flags) : Bool := f.without g ≠ f

/-- The flags inside a group that switches some on and some off. A choice of scripts replaces the
choice made outside. -/
def inside (f add del : Flags) : Flags :=
  let f := if add.ascii || add.unicode then { f with ascii := false, unicode := false } else f
  (f.union add).without del

end Flags

inductive ClassKind where
  | digit
  | space
  | word
deriving DecidableEq

structure CharClass where
  kind : ClassKind
  negated : Bool
deriving DecidableEq

inductive SetItem where
  | char (code : Nat)
  | range (low high : Nat)
  | cls (c : CharClass)
deriving DecidableEq

inductive Anchor where
  | lineStart
  | lineEnd
  | textStart
  | textEnd
  | boundary
  | noBoundary
deriving DecidableEq

inductive Haste where
  | greedy
  | lazy
  /-- What was taken is never given back. -/
  | possessive
deriving DecidableEq

/-- The least number of characters, and the greatest if there is one. -/
structure Width where
  low : Nat
  high : Option Nat
deriving DecidableEq

inductive Node where
  | char (code : Nat)
  | otherChar (code : Nat)
  | any
  | set (negated : Bool) (items : List SetItem)
  | anchor (a : Anchor)
  /-- A group that may capture, with the flags it switches on and off. -/
  | group (capture : Option Nat) (add del : Flags) (body : List Node)
  | atomic (body : List Node)
  | loop (haste : Haste) (min : Nat) (max : Option Nat) (body : List Node)
  | branches (bodies : List (List Node))
  | look (ahead negated : Bool) (body : List Node)
  /-- What a group captured, with the width of the group. -/
  | backref (group : Nat) (width : Width)
  | ifGroup (group : Nat) (yes no : List Node)

/-- Counts from here on are too large to be written. -/
def countLimit : Nat := 4294967295

namespace Width

def one : Width := ⟨1, some 1⟩

def zero : Width := ⟨0, some 0⟩

def add (v w : Width) : Width := ⟨v.low + w.low, v.high.bind fun m => w.high.map (m + ·)⟩

def either (v w : Width) : Width :=
  ⟨min v.low w.low, v.high.bind fun m => w.high.map (max m)⟩

def times (w : Width) (least : Nat) (most : Option Nat) : Width :=
  let high := match w.high, most with
    | some 0, _ | _, some 0 => some 0
    | some h, some m => some (h * m)
    | _, _ => none
  ⟨w.low * least, high⟩

/-- Whether all matches have one length, and no absurd one. -/
def isFixed (w : Width) : Bool := w.high == some w.low && w.low ≤ countLimit

end Width

mutual

def Node.width : Node → Width
  | .char _ | .otherChar _ | .any | .set _ _ => .one
  | .anchor _ | .look _ _ _ => .zero
  | .group _ _ _ body | .atomic body => sequenceWidth body
  | .loop _ least most body => (sequenceWidth body).times least most
  | .branches bodies => branchesWidth bodies
  | .backref _ w => w
  | .ifGroup _ yes no => (sequenceWidth yes).either (sequenceWidth no)

def sequenceWidth : List Node → Width
  | [] => .zero
  | n :: ns => n.width.add (sequenceWidth ns)

def branchesWidth : List (List Node) → Width
  | [] => .zero
  | [b] => sequenceWidth b
  | b :: bs => (sequenceWidth b).either (branchesWidth bs)

end

mutual

/-- Whether every look behind has one width and, where nothing may be repeated, nothing is. -/
def Node.isSound (template : Bool) : Node → Bool
  | .group _ _ _ body | .atomic body => areSound template body
  | .loop _ _ _ body => !template && areSound template body
  | .branches bodies => branchesAreSound template bodies
  | .look ahead _ body =>
    (ahead || (sequenceWidth body).isFixed) && areSound template body
  | .ifGroup _ yes no => areSound template yes && areSound template no
  | _ => true

def areSound (template : Bool) : List Node → Bool
  | [] => true
  | n :: ns => n.isSound template && areSound template ns

def branchesAreSound (template : Bool) : List (List Node) → Bool
  | [] => true
  | b :: bs => areSound template b && branchesAreSound template bs

end

/-- Whether two nodes that stand for one character or one place are the same. -/
def Node.sameLeaf : Node → Node → Bool
  | .char a, .char b => a == b
  | .otherChar a, .otherChar b => a == b
  | .any, .any => true
  | .set n xs, .set m ys => n == m && xs == ys
  | .anchor a, .anchor b => a == b
  | .backref g _, .backref h _ => g == h
  | _, _ => false

end BuildingQuery.Regex
