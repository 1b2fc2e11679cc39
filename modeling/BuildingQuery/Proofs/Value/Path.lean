import BuildingQuery.Decode.Issue
import BuildingQuery.Proofs.Number.Digits

/-! Paths in a document: the steps that the text of a path stands for, and what they lead to. Fields
are set apart by points, and the place of a member stands in brackets behind the field. -/

namespace BuildingQuery

open Number

namespace Value

def part? : Value → Step → Option Value
  | v, .name s => v.field? s
  | .list vs, .place n => if n < 0 then none else vs[n.toNat]?
  | _, .place _ => none

def follow? (v : Value) : (steps : List Step) → Option Value
  | [] => some v
  | s :: steps => (v.part? s).bind fun w => w.follow? steps

theorem follow?_append (v : Value) (steps more : List Step) :
    v.follow? (steps ++ more) = (v.follow? steps).bind fun w => w.follow? more := by
  induction steps generalizing v with
  | nil => rfl
  | cons s steps ih =>
    rw [List.cons_append, follow?, follow?]
    cases v.part? s with
    | none => rfl
    | some w => exact ih w

theorem part?_list (vs : List Value) (n : Nat) : (Value.list vs).part? (.place n) = vs[n]? := by
  have hn : ¬ (n : Int) < 0 := by omega
  rw [part?, if_neg hn, Int.toNat_natCast]

end Value

namespace Step

/-- The number in front of a closing bracket. -/
def placeIn? (s : List Char) : Option Nat :=
  match splitDigits s with
  | (d :: ds, [']']) => some (ofDigits (d :: ds))
  | _ => none

/-- The step into a field, and those from there to a member. -/
def ofWord? (word : List Char) : Option (List Step) :=
  match word.splitOn '[' with
  | [] => none
  | field :: places => do
    let ns ← places.mapM placeIn?
    return .name (String.ofList field) :: ns.map fun n => .place (n : Nat)

def readWords? (path : List Char) : Option (List Step) := do
  let steps ← (path.splitOn '.').mapM ofWord?
  return steps.flatten

def readPath? (path : String) : Option (List Step) := readWords? path.toList

theorem ofWord?_field {field : List Char} (h : '[' ∉ field) :
    ofWord? field = some [.name (String.ofList field)] := by
  rw [ofWord?, List.splitOn_eq_singleton h]
  rfl

theorem placeIn?_digits (n : Nat) : placeIn? (digits n ++ [']']) = some n := by
  have hsplit : splitDigits (digits n ++ [']']) = ((digits n).map digitOf, [']']) :=
    splitDigits_append (fun _ => isAsciiDigit_of_mem_digits) (endsRun_cons rfl)
  have hread := ofDigits_digits n
  obtain ⟨d, ds, hds⟩ := List.exists_cons_of_ne_nil (digits_ne_nil n)
  rw [hds, List.map_cons] at hsplit hread
  rw [placeIn?, hds, hsplit]
  exact congrArg some hread

theorem not_mem_digits {n : Nat} {c : Char} (h : Text.isAsciiDigit c = false) : c ∉ digits n := by
  intro hc
  rw [isAsciiDigit_of_mem_digits hc] at h
  nomatch h

/-- The word for a member of a field. -/
def memberWord (field : List Char) (n : Nat) : List Char := field ++ '[' :: (digits n ++ [']'])

theorem not_mem_memberWord {field : List Char} (h : '.' ∉ field) (n : Nat) :
    '.' ∉ memberWord field n := by
  have hd : '.' ∉ digits n := not_mem_digits rfl
  simp [memberWord, h, hd]

theorem ofWord?_memberWord {field : List Char} (h : '[' ∉ field) (n : Nat) :
    ofWord? (memberWord field n) = some [.name (String.ofList field), .place n] := by
  have hplace : '[' ∉ digits n ++ [']'] := by
    rw [List.mem_append, not_or]
    exact ⟨not_mem_digits rfl, by simp⟩
  rw [ofWord?, memberWord, List.splitOn_append_cons_self_of_not_mem h, List.splitOn_eq_singleton hplace]
  simp [placeIn?_digits]

theorem readWords?_word {word : List Char} {steps : List Step} (h : '.' ∉ word)
    (hw : ofWord? word = some steps) : readWords? word = some steps := by
  rw [readWords?, List.splitOn_eq_singleton h]
  simp [hw]

theorem readWords?_cons {word rest : List Char} {steps more : List Step} (h : '.' ∉ word)
    (hw : ofWord? word = some steps) (hr : readWords? rest = some more) :
    readWords? (word ++ '.' :: rest) = some (steps ++ more) := by
  rw [readWords?] at hr ⊢
  rw [List.splitOn_append_cons_self_of_not_mem h, List.mapM_cons, hw]
  cases hws : (rest.splitOn '.').mapM ofWord? with
  | none => simp [hws] at hr
  | some words =>
    obtain rfl : words.flatten = more := by simpa [hws] using hr
    simp

end Step

end BuildingQuery
