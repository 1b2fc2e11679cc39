import BuildingQuery.Regex.Scan

/-! Reading a whole expression. Case does not count unless the expression says so. -/

namespace BuildingQuery.Regex

open Text

/-- Groups that neither capture nor change flags give way to what is in them. -/
def splice (nodes : List Node) : List Node :=
  nodes.flatMap fun
    | .group none add del body =>
      if add = .none ∧ del = .none then body else [.group none add del body]
    | n => [n]

/-- What a group that only groups holds, else the node alone. -/
def repeated : Node → List Node
  | .group none add del body =>
    if add = .none ∧ del = .none then body else [.group none add del body]
  | n => [n]

/-- Repeats the last node read. Anchors and what is repeated already cannot be. -/
def repeatLast (done : List Node) (least : Nat) (most : Option Nat) : Read (List Node) := do
  match done with
  | [] | .anchor _ :: _ | .loop _ _ _ _ :: _ => malformed
  | n :: done =>
    let isLazy ← accept '?'
    let isPossessive ← if isLazy then pure false else accept '+'
    let haste : Haste := if isLazy then .lazy else if isPossessive then .possessive else .greedy
    return .loop haste least most (repeated n) :: done

/-- Moves what all branches start with in front of them. -/
def commonStart : (fuel : Nat) → List (List Node) → List Node × List (List Node)
  | fuel + 1, (n :: b) :: bs =>
    if bs.all fun c => c.head?.any n.sameLeaf then
      let (start, rest) := commonStart fuel (b :: bs.map List.tail)
      (n :: start, rest)
    else ([], (n :: b) :: bs)
  | _, bs => ([], bs)

/-- The items of branches that are all single characters and sets. -/
def singleItems? : List (List Node) → Option (List SetItem)
  | [] => some []
  | [.char code] :: bs => (singleItems? bs).map (.char code :: ·)
  | [.set false items] :: bs => (singleItems? bs).map (items ++ ·)
  | _ => none

/-- The choice between branches: a set where each is a single character. -/
def choice : List (List Node) → List Node
  | [b] => b
  | bs =>
    let (start, rest) := commonStart ((bs.head?.getD []).length + 1) bs
    match singleItems? rest with
    | some items => start ++ [.set false items.eraseDups]
    | none => start ++ [.branches rest]

def openGroup (name : Option String) : Read Nat := do
  let s ← get
  let g := s.groups.length
  match name with
  | none => set { s with groups := s.groups ++ [none] }
  | some name =>
    if (s.names.lookup name).isSome then malformed
    else set { s with groups := s.groups ++ [none], names := (name, g) :: s.names }
  return g

def closeGroup (g : Nat) (w : Width) : Read Unit :=
  modify fun s => { s with groups := s.groups.set g (some w) }

def groupNamed (name : List Char) : Read Nat := do
  match (← get).names.lookup (String.ofList name) with
  | some g => return g
  | none => malformed

/-- Digits of any script in groups that underscores join, with a plus sign before them or not. -/
def writtenNumber? (s : List Char) : Option Nat :=
  let s := trimWith isSpace s
  let s := match s with
    | '+' :: s => s
    | s => s
  let rec value : List Char → Nat → Option Nat
    | [], n => some n
    | '_' :: c :: s, n => (digitValue? c).bind fun d => value s (n * 10 + d)
    | c :: s, n => (digitValue? c).bind fun d => value s (n * 10 + d)
  match s with
  | [] | '_' :: _ => none
  | s => value s 0

def conditionGroup (name : List Char) : Read Nat := do
  if isIdentifier name then groupNamed name
  else match writtenNumber? name with
    | none | some 0 => malformed
    | some g =>
      modify fun s => { s with asked := g :: s.asked }
      return g

def skipComment : Read Unit := do
  let s ← get
  let rest := s.rest.dropWhile (· != .plain ')')
  if rest.isEmpty then malformed else set { s with rest := rest.tail }

def skipLine : Read Unit :=
  modify fun s => { s with rest := (s.rest.dropWhile (· != .plain '\n')).tail }

/-- What a bracket with a question mark starts. -/
inductive Opening where
  | node (n : Node)
  | nothing
  | globalFlags
  | group (name : Option String) (captures : Bool) (add del : Flags)
  | atomic
  | look (ahead negated : Bool)
  | condition (group : Nat)

def isLayoutChar (c : Char) : Bool := c == ' ' || (9 ≤ c.toNat && c.toNat ≤ 13)

def identifier (stop : Char) : Read (List Char) := do
  let name ← takeUntil stop
  if isIdentifier name then return name else malformed

def opening : Read Opening := do
  if !(← accept '?') then return .group none true .none .none
  else
    let t ← take
    match t with
    | .plain 'P' =>
      if ← accept '<' then
        return .group (some (String.ofList (← identifier '>'))) true .none .none
      else if ← accept '=' then
        return .node (← backref (← groupNamed (← identifier ')')))
      else malformed
    | .plain ':' => return .group none false .none .none
    | .plain '#' =>
      skipComment
      return .nothing
    | .plain '=' => return .look true false
    | .plain '!' => return .look true true
    | .plain '<' =>
      match ← take with
      | .plain '=' => return .look false false
      | .plain '!' => return .look false true
      | _ => malformed
    | .plain '(' =>
      let g ← conditionGroup (← takeUntil ')')
      checkBehind g
      return .condition g
    | .plain '>' => return .atomic
    | t =>
      match ← inlineFlags t with
      | none => return .globalFlags
      | some (add, del) => return .group none false add del

def closing : Read Unit := do
  if ← accept ')' then return else malformed

mutual

/-- Branches up to the end of the group or of the expression. At the top, flags that the first
branch switches on hold for the others. -/
def readBranches : (fuel : Nat) → (verbose top : Bool) → List (List Node) → Read (List Node)
  | 0, _, _, _ => malformed
  | fuel + 1, verbose, top, bodies => do
    let body ← readSequence fuel verbose (top && bodies.isEmpty) []
    let bodies := bodies ++ [body]
    if ← accept '|' then
      let flags := (← get).flags
      let verbose := if top then flags.verbose else verbose
      readBranches fuel verbose top bodies
    else return choice bodies

/-- One branch, with the nodes read so far in reverse. Flags for the whole expression may stand only
where nothing has been read. -/
def readSequence : (fuel : Nat) → (verbose first : Bool) → List Node → Read (List Node)
  | 0, _, _, _ => malformed
  | fuel + 1, verbose, first, done => do
    match ← next? with
    | none | some (.plain '|') | some (.plain ')') => return splice done.reverse
    | some t =>
      let _ ← take
      match t with
      | .escaped c => readSequence fuel verbose first ((← escape c) :: done)
      | .plain c =>
        if verbose && isLayoutChar c then readSequence fuel verbose first done
        else if verbose && c == '#' then
          skipLine
          readSequence fuel verbose first done
        else match c with
          | '[' => readSequence fuel verbose first ((← charSet) :: done)
          | '.' => readSequence fuel verbose first (.any :: done)
          | '^' => readSequence fuel verbose first (.anchor .lineStart :: done)
          | '$' => readSequence fuel verbose first (.anchor .lineEnd :: done)
          | '?' => readSequence fuel verbose first (← repeatLast done 0 (some 1))
          | '*' => readSequence fuel verbose first (← repeatLast done 0 none)
          | '+' => readSequence fuel verbose first (← repeatLast done 1 none)
          | '\x7b' =>
            match ← counts? with
            | none => readSequence fuel verbose first (.char c.toNat :: done)
            | some (least, most) =>
              readSequence fuel verbose first (← repeatLast done least most)
          | '(' =>
            match ← opening with
            | .nothing => readSequence fuel verbose first done
            | .node n => readSequence fuel verbose first (n :: done)
            | .globalFlags =>
              if first && done.isEmpty then
                let flags := (← get).flags
                readSequence fuel flags.verbose first done
              else malformed
            | .group name captures add del =>
              let g ← if captures then some <$> openGroup name else pure none
              let inner := (verbose || add.verbose) && !del.verbose
              let body ← readBranches fuel inner false []
              closing
              match g with
              | none => pure ()
              | some g => closeGroup g (sequenceWidth body)
              readSequence fuel verbose first (.group g add del body :: done)
            | .atomic =>
              let body ← readBranches fuel verbose false []
              closing
              readSequence fuel verbose first (.atomic body :: done)
            | .look ahead negated =>
              let behind := (← get).behindFrom
              if !ahead then
                modify fun s => { s with behindFrom := behind.or (some s.groups.length) }
              let body ← readBranches fuel verbose false []
              if !ahead then modify fun s => { s with behindFrom := behind }
              closing
              readSequence fuel verbose first (.look ahead negated body :: done)
            | .condition g =>
              let yes ← readSequence fuel verbose false []
              let no ← if ← accept '|' then readSequence fuel verbose false [] else pure []
              closing
              readSequence fuel verbose first (.ifGroup g yes no :: done)
          | c => readSequence fuel verbose first (.char c.toNat :: done)

end

structure Expression where
  flags : Flags
  body : List Node

/-- Reads an expression. Each token is read at most twice over by the two readers, which bounds
their steps. -/
def read (s : String) : Except Defect Expression := do
  let some tokens := tokens? s.toList | throw .malformed
  let start : Scan := { rest := tokens, flags := { ignoreCase := true } }
  let (body, done) ← (readBranches (2 * tokens.length + 3) false true []).run start
  let flags := done.flags
  if flags.ascii && flags.unicode then throw .scriptConflict
  let sound := areSound flags.template body
  if !done.rest.isEmpty || done.asked.any (done.groups.length ≤ ·) || !sound then throw .malformed
  return ⟨{ flags with unicode := !flags.ascii }, body⟩

end BuildingQuery.Regex
