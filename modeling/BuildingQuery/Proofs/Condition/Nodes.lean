import BuildingQuery.Proofs.Condition.Tree
import Mathlib.Data.List.Basic

/-! The conditions inside a condition or a rule with their places, every group before its members.
A place is the number of a member in each group on the way down. -/

namespace BuildingQuery

structure Node where
  place : List Nat
  condition : Condition

/-- The node as it stands inside a member of a group. -/
def Node.under (i : Nat) (n : Node) : Node := ⟨i :: n.place, n.condition⟩

namespace Condition

mutual

def nodes : Condition → List Node
  | group k cs => ⟨[], group k cs⟩ :: nodesFrom 0 cs
  | c => [⟨[], c⟩]

/-- The nodes of members that are numbered from `i` on. -/
def nodesFrom (i : Nat) : List Condition → List Node
  | [] => []
  | c :: cs => (nodes c).map (Node.under i) ++ nodesFrom (i + 1) cs

end

def at? : Condition → (place : List Nat) → Option Condition
  | c, [] => some c
  | group _ cs, i :: place => cs[i]?.bind fun c => c.at? place
  | _, _ :: _ => none

theorem nodes_of_isLeaf {c : Condition} (h : c.isLeaf = true) : c.nodes = [⟨[], c⟩] := by
  cases c with
  | group k cs => simp [isLeaf] at h
  | _ => rw [nodes]; simp

theorem at?_of_isLeaf {c : Condition} (h : c.isLeaf = true) (i : Nat) (place : List Nat) :
    c.at? (i :: place) = none := by
  cases c with
  | group k cs => simp [isLeaf] at h
  | _ => rfl

theorem mem_nodesFrom {i : Nat} {cs : List Condition} {n : Node} :
    n ∈ nodesFrom i cs ↔
      ∃ j place c, cs[j]? = some c ∧ ⟨place, n.condition⟩ ∈ c.nodes ∧ n.place = (i + j) :: place := by
  induction cs generalizing i with
  | nil => simp [nodesFrom]
  | cons c cs ih =>
    rw [nodesFrom, List.mem_append, List.mem_map, ih]
    constructor
    · rintro (⟨m, hm, rfl⟩ | ⟨j, place, d, hd, hm, hn⟩)
      · exact ⟨0, m.place, c, rfl, hm, rfl⟩
      · exact ⟨j + 1, place, d, hd, hm, by rw [hn, Nat.add_right_comm, Nat.add_assoc]⟩
    · rintro ⟨j, place, d, hd, hm, hn⟩
      cases j with
      | zero =>
        obtain rfl := Option.some.inj hd
        have hplace : i :: place = n.place := hn.symm
        exact .inl ⟨_, hm, by rw [Node.under, hplace]⟩
      | succ j => exact .inr ⟨j, place, d, hd, hm, by rw [hn, Nat.add_right_comm, Nat.add_assoc]⟩

theorem mem_nodesFrom_zero {cs : List Condition} {i : Nat} {place : List Nat} {d : Condition} :
    ⟨i :: place, d⟩ ∈ nodesFrom 0 cs ↔ ∃ c, cs[i]? = some c ∧ ⟨place, d⟩ ∈ c.nodes := by
  rw [mem_nodesFrom]
  constructor
  · rintro ⟨j, p, c, hc, hd, hp⟩
    obtain ⟨rfl, rfl⟩ := List.cons.inj hp
    exact ⟨c, by rwa [Nat.zero_add], hd⟩
  · rintro ⟨c, hc, hd⟩
    exact ⟨i, place, c, hc, hd, by rw [Nat.zero_add]⟩

/-- The nodes of a condition are the conditions at its places. -/
theorem mem_nodes_iff {c : Condition} {n : Node} :
    n ∈ c.nodes ↔ c.at? n.place = some n.condition := by
  induction c using tree_induction generalizing n with
  | leaf c hc =>
    obtain ⟨place, d⟩ := n
    rw [nodes_of_isLeaf hc, List.mem_singleton]
    cases place with
    | nil => simp [at?, eq_comm]
    | cons i place => simp [at?_of_isLeaf hc]
  | group k cs ih =>
    obtain ⟨place, d⟩ := n
    rw [nodes, List.mem_cons]
    cases place with
    | nil => simp [at?, mem_nodesFrom, eq_comm]
    | cons i place =>
      rw [mem_nodesFrom_zero, at?, Option.bind_eq_some_iff]
      simp only [Node.mk.injEq, reduceCtorEq, false_and, false_or]
      exact exists_congr fun c => and_congr_right fun hc => ih c (List.mem_of_getElem? hc)

theorem sorted_nodesFrom {cs : List Condition}
    (h : ∀ c ∈ cs, (c.nodes.map Node.place).Pairwise (· < ·)) (i : Nat) :
    ((nodesFrom i cs).map Node.place).Pairwise (· < ·) := by
  induction cs generalizing i with
  | nil => simp [nodesFrom]
  | cons c cs ih =>
    obtain ⟨hc, hcs⟩ := List.forall_mem_cons.mp h
    rw [nodesFrom, List.map_append, List.map_map, List.pairwise_append]
    refine ⟨?_, ih hcs (i + 1), ?_⟩
    · rw [List.pairwise_map] at hc ⊢
      exact hc.imp fun hlt => List.cons_lt_cons_iff.mpr (.inr ⟨rfl, hlt⟩)
    · -- The places in the first member begin with its number, all others with a greater one.
      rintro _ hp _ hq
      obtain ⟨n, -, rfl⟩ := List.mem_map.mp hp
      obtain ⟨m, hm, rfl⟩ := List.mem_map.mp hq
      obtain ⟨j, place, d, -, -, hplace⟩ := mem_nodesFrom.mp hm
      rw [hplace]
      exact List.cons_lt_cons_iff.mpr (.inl (by omega))

theorem sorted_nodes (c : Condition) : (c.nodes.map Node.place).Pairwise (· < ·) := by
  induction c using tree_induction with
  | leaf c hc => simp [nodes_of_isLeaf hc]
  | group k cs ih =>
    rw [nodes, List.map_cons, List.pairwise_cons]
    refine ⟨?_, sorted_nodesFrom ih 0⟩
    rintro _ hp
    obtain ⟨n, hn, rfl⟩ := List.mem_map.mp hp
    obtain ⟨j, place, d, -, -, hplace⟩ := mem_nodesFrom.mp hn
    rw [hplace]
    exact List.nil_lt_cons _ _

end Condition

namespace Rule

/-- The conditions of a rule with those inside them, in pre-order. -/
def nodes (r : Rule) : List Node := Condition.nodesFrom 0 r.conditions

def at? (r : Rule) : (place : List Nat) → Option Condition
  | [] => none
  | i :: place => r.conditions[i]?.bind fun c => c.at? place

theorem mem_nodes_iff {r : Rule} {n : Node} : n ∈ r.nodes ↔ r.at? n.place = some n.condition := by
  obtain ⟨place, d⟩ := n
  rw [nodes]
  cases place with
  | nil => simp [at?, Condition.mem_nodesFrom]
  | cons i place =>
    rw [Condition.mem_nodesFrom_zero, at?, Option.bind_eq_some_iff]
    exact exists_congr fun c => and_congr_right fun _ => Condition.mem_nodes_iff

/-- Pre-order is the order of the places: a group comes before its members, and what is inside a
member before the next one. -/
theorem sorted_nodes (r : Rule) : (r.nodes.map Node.place).Pairwise (· < ·) :=
  Condition.sorted_nodesFrom (fun c _ => c.sorted_nodes) 0

end Rule

end BuildingQuery
