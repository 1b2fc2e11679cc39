import BuildingQuery.Condition.Evaluate
import Mathlib.Data.List.Forall2

/-! The leaves of a condition tree, and how a group tries its members and comes to its value. A rule
is read as the group of its conditions, so that what holds of trees holds of rules. -/

namespace BuildingQuery

namespace Condition

def isLeaf : Condition → Bool
  | group _ _ => false
  | _ => true

mutual

/-- The conditions of a tree that are no groups, from left to right. -/
def leaves : Condition → List Condition
  | group _ cs => leavesOfAll cs
  | c => [c]

def leavesOfAll : List Condition → List Condition
  | [] => []
  | c :: cs => leaves c ++ leavesOfAll cs

end

theorem leavesOfAll_eq_flatMap (cs : List Condition) : leavesOfAll cs = cs.flatMap leaves := by
  induction cs with
  | nil => rfl
  | cons c cs ih => simp only [leavesOfAll, List.flatMap_cons, ih]

theorem leaves_of_isLeaf {c : Condition} (h : c.isLeaf = true) : c.leaves = [c] := by
  cases c with
  | group k cs => simp [isLeaf] at h
  | _ => simp only [leaves]

theorem mem_leaves_group {k : GroupKind} {cs : List Condition} {l : Condition} :
    l ∈ (group k cs).leaves ↔ ∃ c ∈ cs, l ∈ c.leaves := by
  simp only [leaves, leavesOfAll_eq_flatMap, List.mem_flatMap]

/-- What holds of every leaf, and of a group whose members it holds of, holds of every tree. -/
theorem tree_induction {P : Condition → Prop} (leaf : ∀ c, c.isLeaf = true → P c)
    (group : ∀ k cs, (∀ c ∈ cs, P c) → P (.group k cs)) (c : Condition) : P c := by
  refine Condition.rec (motive_1 := P) (motive_2 := fun cs => ∀ c ∈ cs, P c)
    ?_ ?_ ?_ ?_ ?_ ?_ ?_ ?_ group ?_ ?_ ?_ c
  case refine_10 =>
    intro c hc
    exact absurd hc List.not_mem_nil
  case refine_11 =>
    intro c cs hc hcs d hd
    rcases List.mem_cons.mp hd with rfl | hd
    · exact hc
    · exact hcs d hd
  all_goals
    intros
    exact leaf _ rfl

theorem isLeaf_of_mem_leaves {c l : Condition} (h : l ∈ c.leaves) : l.isLeaf = true := by
  induction c using tree_induction with
  | leaf c hc =>
    rw [leaves_of_isLeaf hc, List.mem_singleton] at h
    exact h ▸ hc
  | group k cs ih =>
    obtain ⟨c, hc, hl⟩ := mem_leaves_group.mp h
    exact ih c hc hl

section Tries

variable {ix : Option Index} {e : Element} {b : Bool} {go : List Condition → Except Fault Bool}

/-- Members are tried one after the other as long as they give `b`. -/
structure Tries (ix : Option Index) (e : Element) (b : Bool)
    (go : List Condition → Except Fault Bool) : Prop where
  nil : go [] = .ok b
  cons : ∀ c cs, go (c :: cs) = (c.holds ix e).bind fun x => if x = b then go cs else .ok x

theorem allHold_tries : Tries ix e true (allHold ix e) where
  nil := rfl
  cons c cs := by
    rw [allHold]
    refine congrArg (Except.bind (c.holds ix e)) (funext fun x => ?_)
    cases x <;> rfl

theorem anyHolds_tries : Tries ix e false (anyHolds ix e) where
  nil := rfl
  cons c cs := by
    rw [anyHolds]
    refine congrArg (Except.bind (c.holds ix e)) (funext fun x => ?_)
    cases x <;> rfl

theorem Tries.undecided_iff (h : Tries ix e b go) {cs : List Condition} :
    go cs = .ok b ↔ ∀ c ∈ cs, c.holds ix e = .ok b := by
  induction cs with
  | nil => simp [h.nil]
  | cons c cs ih =>
    rw [h.cons, List.forall_mem_cons, ← ih]
    cases c.holds ix e with
    | error f => simp [Except.bind]
    | ok x => by_cases hx : x = b <;> simp [Except.bind, hx]

theorem Tries.exists_of_decided (h : Tries ix e b go) {cs : List Condition}
    (hcs : go cs = .ok !b) : ∃ c ∈ cs, c.holds ix e = .ok !b := by
  induction cs with
  | nil => simp [h.nil] at hcs
  | cons c cs ih =>
    rw [h.cons] at hcs
    cases hc : c.holds ix e with
    | error f => simp [hc, Except.bind] at hcs
    | ok x =>
      by_cases hx : x = b
      · obtain ⟨d, hd, hf⟩ := ih (by simpa [hc, hx, Except.bind] using hcs)
        exact ⟨d, List.mem_cons_of_mem _ hd, hf⟩
      · exact ⟨c, List.mem_cons_self, by simpa [hc, hx, Except.bind] using hcs⟩

theorem Tries.append (h : Tries ix e b go) (cs ds : List Condition) :
    go (cs ++ ds) = (go cs).bind fun x => if x = b then go ds else .ok x := by
  induction cs with
  | nil => rw [List.nil_append, h.nil, Except.bind, if_pos rfl]
  | cons c cs ih =>
    rw [List.cons_append, h.cons, h.cons]
    cases c.holds ix e with
    | error f => rfl
    | ok x => by_cases hx : x = b <;> simp [Except.bind, hx, ih]

variable {ix' : Option Index} {e' : Element} {cs ds : List Condition}

/-- Members that give the same one by one give the same together. -/
theorem Tries.congr {go' : List Condition → Except Fault Bool} (h : Tries ix e b go)
    (h' : Tries ix' e' b go')
    (hcs : List.Forall₂ (fun c d => c.holds ix e = d.holds ix' e') cs ds) : go cs = go' ds := by
  induction hcs with
  | nil => rw [h.nil, h'.nil]
  | cons hc _ ih => rw [h.cons, h'.cons, hc, ih]

theorem holds_group_congr {k : GroupKind}
    (h : List.Forall₂ (fun c d => c.holds ix e = d.holds ix' e') cs ds) :
    (group k cs).holds ix e = (group k ds).holds ix' e' := by
  cases k with
  | all => simpa only [holds] using allHold_tries.congr allHold_tries h
  | any => simpa only [holds] using anyHolds_tries.congr anyHolds_tries h
  | none => simp only [holds, anyHolds_tries.congr anyHolds_tries h]

end Tries

end Condition

def GroupKind.value : GroupKind → List Bool → Bool
  | .all, bs => bs.all id
  | .any, bs => bs.any id
  | .none, bs => !bs.any id

/-- The value of a member that leaves the group undecided, so that the next member is tried. -/
def GroupKind.undecided : GroupKind → Bool
  | .all => true
  | .any | .none => false

def RuleMode.kind : RuleMode → GroupKind
  | .all => .all
  | .any => .any

def Rule.body (r : Rule) : Condition := .group r.mode.kind r.conditions

theorem Rule.holds_body (r : Rule) (ix : Option Index) (e : Element) :
    r.body.holds ix e = r.mode.holds ix e r.conditions := by
  obtain ⟨_, _, _, _, mode⟩ := r
  cases mode <;> simp only [Rule.body, RuleMode.kind, RuleMode.holds, Condition.holds]

end BuildingQuery
