import BuildingQuery.Regex.CharTest

/-! Finding an expression in a text. A node is tried at a place and hands every place where it can
end to what comes after it, in order of preference. -/

namespace BuildingQuery.Regex

open Text

/-- A position in the text, and the marks that groups set: the mark `2 g` where group `g` starts and
`2 g + 1` where it ends, the latest first. -/
structure Place where
  pos : Nat
  marks : List (Nat × Nat) := []

abbrev Rest := Place → Option Place

def Place.mark (p : Place) (m : Nat) : Place := { p with marks := (m, p.pos) :: p.marks }

/-- Where a group that has been matched starts and ends. -/
def Place.captured? (p : Place) (g : Nat) : Option (Nat × Nat) := do
  let start ← p.marks.lookup (2 * g)
  let stop ← p.marks.lookup (2 * g + 1)
  if start ≤ stop then some (start, stop) else none

def isLineEnd (c : Char) : Bool := c == '\n'

/-- Whether a position lies between a word character and something else. In an empty text there is
neither a boundary nor a place without one. -/
def atBoundary (f : Flags) (text : Array Char) (pos : Nat) : Bool :=
  let isWord (c : Char) : Bool := ClassKind.word.holds f c
  let before := 0 < pos && text[pos - 1]?.any isWord
  before != text[pos]?.any isWord

def Anchor.holds (f : Flags) (text : Array Char) (pos : Nat) : Anchor → Bool
  | .textStart => pos == 0
  | .textEnd => pos == text.size
  | .lineStart => pos == 0 || (f.multiline && text[pos - 1]?.any isLineEnd)
  | .lineEnd =>
    pos == text.size ||
      ((f.multiline || pos + 1 == text.size) && text[pos]?.any isLineEnd)
  | .boundary => 0 < text.size && atBoundary f text pos
  | .noBoundary => 0 < text.size && !atBoundary f text pos

def takeChar (text : Array Char) (test : Char → Bool) (k : Rest) : Rest := fun p =>
  if text[p.pos]?.any test then k { p with pos := p.pos + 1 } else none

/-- Takes what a group captured, by lower forms where case does not count. -/
def takeCaptured (f : Flags) (text : Array Char) (g : Nat) (k : Rest) : Rest := fun p =>
  match p.captured? g with
  | none => none
  | some (start, stop) =>
    let form (c : Char) : Char := if f.ignoreCase then f.lower c else c
    let same := (List.range (stop - start)).all fun i =>
      match text[start + i]?, text[p.pos + i]? with
      | some a, some b => form a == form b
      | _, _ => false
    if same then k { p with pos := p.pos + (stop - start) } else none

/-- Repeats a step, as often as possible first. After the least count a step must not begin where
the one before it began, so the steps are bounded by what is left of the text. -/
def greedily (step : Rest → Rest) (least : Nat) (most : Option Nat) (k : Rest) :
    (fuel count : Nat) → (last : Option Nat) → Rest
  | 0, _, _, _ => none
  | fuel + 1, count, last, p =>
    if count < least then step (greedily step least most k fuel (count + 1) last) p
    else
      let longer :=
        if most.all (count < ·) && last != some p.pos then
          step (greedily step least most k fuel (count + 1) (some p.pos)) p
        else none
      longer.or (k p)

/-- Repeats a step, as rarely as possible first. -/
def lazily (step : Rest → Rest) (least : Nat) (most : Option Nat) (k : Rest) :
    (fuel count : Nat) → (last : Option Nat) → Rest
  | 0, _, _, _ => none
  | fuel + 1, count, last, p =>
    if count < least then step (lazily step least most k fuel (count + 1) last) p
    else (k p).or <|
      if most.all (count < ·) && last != some p.pos then
        step (lazily step least most k fuel (count + 1) (some p.pos)) p
      else none

/-- Repeats a step in its first way as often as possible. -/
def possessively (step : Rest → Rest) (least : Nat) (most : Option Nat) :
    (fuel count : Nat) → (last : Option Nat) → Rest
  | 0, _, _, _ => none
  | fuel + 1, count, last, p =>
    if count < least then
      (step some p).bind (possessively step least most fuel (count + 1) last)
    else if most.all (count < ·) && last != some p.pos then
      match step some p with
      | none => some p
      | some q => possessively step least most fuel (count + 1) (some p.pos) q
    else some p

mutual

/-- Tries a node at a place, before the rest. -/
def Node.run (text : Array Char) (f : Flags) (n : Node) (k : Rest) : Rest := fun p =>
  match n with
  | .char code => takeChar text (charHolds f · code) k p
  | .otherChar code => takeChar text (!charHolds f · code) k p
  | .any => takeChar text (fun c => f.dotAll || !isLineEnd c) k p
  | .set negated items => takeChar text (setHolds f · negated items) k p
  | .anchor a => if a.holds f text p.pos then k p else none
  | .group capture add del body =>
    match capture with
    | none => runSequence text (f.inside add del) body k p
    | some g =>
      runSequence text (f.inside add del) body (fun q => k (q.mark (2 * g + 1))) (p.mark (2 * g))
  | .atomic body => (runSequence text f body some p).bind k
  | .loop haste least most body =>
    let step := runSequence text f body
    let fuel := least + (text.size - p.pos) + 3
    match haste with
    | .greedy => greedily step least most k fuel 0 none p
    | .lazy => lazily step least most k fuel 0 none p
    | .possessive => (possessively step least most fuel 0 none p).bind k
  | .branches bodies => runBranches text f bodies k p
  | .look ahead negated body =>
    let back := if ahead then 0 else (sequenceWidth body).low
    let found := if back ≤ p.pos then runSequence text f body some { p with pos := p.pos - back }
      else none
    match found, negated with
    | some q, false => k { q with pos := p.pos }
    | none, true => k p
    | _, _ => none
  | .backref g _ => takeCaptured f text g k p
  | .ifGroup g yes no =>
    if (p.captured? g).isSome then runSequence text f yes k p else runSequence text f no k p

def runSequence (text : Array Char) (f : Flags) (ns : List Node) (k : Rest) : Rest := fun p =>
  match ns with
  | [] => k p
  | n :: ns => n.run text f (runSequence text f ns k) p

def runBranches (text : Array Char) (f : Flags) (bs : List (List Node)) (k : Rest) :
    Rest := fun p =>
  match bs with
  | [] => none
  | b :: bs => (runSequence text f b k p).or (runBranches text f bs k p)

end

/-- Whether an expression is found anywhere in a text. -/
def isFound (flags : Flags) (body : List Node) (s : String) : Bool :=
  let text := s.toList.toArray
  (List.range (text.size + 1)).any fun pos =>
    (runSequence text flags body some { pos }).isSome

end BuildingQuery.Regex
