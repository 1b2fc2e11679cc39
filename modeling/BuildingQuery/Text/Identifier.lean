import BuildingQuery.Text.Runs
import BuildingQuery.Text.Table.Identifier
import BuildingQuery.Text.Table.CharName

/-! Identifiers, and the characters that a standard name stands for. -/

namespace BuildingQuery.Text

def isIdentifier : List Char → Bool
  | [] => false
  | c :: cs =>
    inRuns Table.identifierStart c.toNat && cs.all fun c => inRuns Table.identifierPart c.toNat

def charNamed? (name : String) : Option Nat :=
  (Table.nameRuns.findSome? fun (first, names) =>
    ((names.flatMap (·.splitOn ";")).idxOf? name).map (first + ·)).or
  (Table.nameAliases.lookup name)

end BuildingQuery.Text
