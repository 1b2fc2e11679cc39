import BuildingQuery.Proofs.Selection.Broken

/-! Loosening a condition inside a rule. A condition in the place of one that implies it can only
enlarge what is selected, unless an odd number of groups around the place asks for none of its
members; there it can only shrink it. -/

namespace BuildingQuery

open Condition

/-- Where both evaluations end, a match in the first is one in the second. -/
def Implies (x y : Except Fault Bool) : Prop :=
  ∀ u v, x = .ok u → y = .ok v → u = true → v = true

theorem implies_iff_not_turns {x y : Except Fault Bool} : Implies x y ↔ ¬ Turns false x y := by
  constructor
  · rintro h ⟨hx, hy⟩
    have hv := h _ _ hx hy rfl
    nomatch hv
  · intro h u v hx hy hu
    by_contra hv
    rw [Bool.not_eq_true] at hv
    subst hu hv
    exact h ⟨hx, hy⟩

theorem turns_swap {b : Bool} {x y : Except Fault Bool} : Turns b x y ↔ Turns (!b) y x := by
  rw [Turns, Turns, Bool.not_not, and_comm]

theorem Rule.turns_of_turns_replaceAt {ix : Option Index} {e : Element} {x y : Condition}
    {path : List Nat} {r : Rule} {b : Bool}
    (h : Turns b ((r.replaceAt path x).body.holds ix e) ((r.replaceAt path y).body.holds ix e)) :
    Turns (b == decide (Even (r.body.negations path))) (x.holds ix e) (y.holds ix e) := by
  cases path with
  | nil => exact absurd h (not_turns_self _ _)
  | cons i path => exact Condition.turns_of_turns_replaceAt (c := r.body) h

variable {ix : Option Index} {e : Element} {a b : Condition} {path : List Nat}

theorem implies_replaceAt (hab : Implies (a.holds ix e) (b.holds ix e)) (c : Condition)
    (hp : Even (c.negations path)) :
    Implies ((c.replaceAt path a).holds ix e) ((c.replaceAt path b).holds ix e) := by
  rw [implies_iff_not_turns] at hab ⊢
  intro h
  have ht := turns_of_turns_replaceAt h
  rw [decide_eq_true hp] at ht
  exact hab ht

theorem implies_replaceAt_swap (hab : Implies (a.holds ix e) (b.holds ix e)) (c : Condition)
    (hp : ¬ Even (c.negations path)) :
    Implies ((c.replaceAt path b).holds ix e) ((c.replaceAt path a).holds ix e) := by
  rw [implies_iff_not_turns] at hab ⊢
  intro h
  have ht := turns_of_turns_replaceAt (turns_swap.mp h)
  rw [decide_eq_false hp] at ht
  exact hab ht

section Selections

variable {ix : Index} {r : Rule} {s t : Selection}

theorem sublist_replaceAt_of_implies
    (hab : ∀ e ∈ ix.records, Implies (a.holds (some ix) e) (b.holds (some ix) e))
    (hs : Selection.of ix (r.replaceAt path a) = .ok s)
    (ht : Selection.of ix (r.replaceAt path b) = .ok t) (hp : Even (r.body.negations path)) :
    s.ids.Sublist t.ids := by
  refine Selection.sublist_of_not_turns ht hs fun e he h => ?_
  have hturns := Rule.turns_of_turns_replaceAt (turns_swap.mp h)
  rw [decide_eq_true hp] at hturns
  exact implies_iff_not_turns.mp (hab e he) hturns

theorem sublist_replaceAt_of_implies_swap
    (hab : ∀ e ∈ ix.records, Implies (a.holds (some ix) e) (b.holds (some ix) e))
    (hs : Selection.of ix (r.replaceAt path a) = .ok s)
    (ht : Selection.of ix (r.replaceAt path b) = .ok t) (hp : ¬ Even (r.body.negations path)) :
    t.ids.Sublist s.ids := by
  refine Selection.sublist_of_not_turns hs ht fun e he h => ?_
  have hturns := Rule.turns_of_turns_replaceAt h
  rw [decide_eq_false hp] at hturns
  exact implies_iff_not_turns.mp (hab e he) hturns

end Selections

/-- Where one condition implies another, a tree with the one implies the tree with the other in its
place, and a rule selects no more with the one than with the other, if an even number of groups
around the place asks for none of its members. If the number is odd it is the other way round. -/
theorem replaceAt_monotone (a b : Condition) :
    (∀ ix e, Implies (a.holds ix e) (b.holds ix e) → ∀ (c : Condition) path,
      (Even (c.negations path) →
        Implies ((c.replaceAt path a).holds ix e) ((c.replaceAt path b).holds ix e)) ∧
      (¬ Even (c.negations path) →
        Implies ((c.replaceAt path b).holds ix e) ((c.replaceAt path a).holds ix e))) ∧
    ∀ ix : Index, (∀ e ∈ ix.records, Implies (a.holds (some ix) e) (b.holds (some ix) e)) →
      ∀ (r : Rule) path s t, Selection.of ix (r.replaceAt path a) = .ok s →
        Selection.of ix (r.replaceAt path b) = .ok t →
          (Even (r.body.negations path) → s.ids.Sublist t.ids) ∧
          (¬ Even (r.body.negations path) → t.ids.Sublist s.ids) := by
  constructor
  · intro ix e hab c path
    exact ⟨implies_replaceAt hab c, implies_replaceAt_swap hab c⟩
  · intro ix hab r path s t hs ht
    exact ⟨sublist_replaceAt_of_implies hab hs ht, sublist_replaceAt_of_implies_swap hab hs ht⟩

/-- Three walls of a type, two of which have openings, and the one of these that has a name. -/
def typedWalls : Index where
  elements := [
    (1, { Element.plain 1 "IfcWall" with relations := { hasOpenings := [10], hasType := some 5 } }),
    (2, { Element.plain 2 "IfcWall" with relations := { hasOpenings := [11], hasType := some 5 } }),
    (3, { Element.plain 3 "IfcWall" with relations := { hasType := some 5 } }),
    (10, { Element.plain 10 "IfcOpeningElement" with name := some "Hatch" })]
  hierarchy := ⟨[]⟩

def namedOpening : Condition := .relation ⟨.hasOpenings, some ⟨none, some "Hatch"⟩⟩

def anyOpening : Condition := .relation ⟨.hasOpenings, none⟩

/-- What has a type and fills no opening. -/
def typedUnfilling : Rule := Rule.inline [
  .group .none [.group .none [.relation ⟨.hasType, none⟩], .relation ⟨.fillsOpening, none⟩]]

theorem implies_anyOpening (ix : Option Index) (e : Element) :
    Implies (namedOpening.holds ix e) (anyOpening.holds ix e) := by
  intro u v hu hv ht
  obtain rfl : _ = u := Except.ok.inj hu
  obtain rfl : _ = v := Except.ok.inj hv
  obtain ⟨id, hid, -⟩ := List.any_eq_true.mp ht
  have hne : (e.related .hasOpenings).isEmpty = false := by
    rw [List.isEmpty_eq_false_iff]
    exact List.ne_nil_of_mem hid
  show (!(e.related .hasOpenings).isEmpty) = true
  rw [hne]
  rfl

theorem replaceAt_monotone_openings :
    (∀ e ∈ typedWalls.records,
      Implies (namedOpening.holds (some typedWalls) e) (anyOpening.holds (some typedWalls) e)) ∧
    (Even (typedUnfilling.body.negations [0, 0, 0]) ∧
      Selection.of typedWalls (typedUnfilling.replaceAt [0, 0, 0] namedOpening) =
        .ok ⟨typedUnfilling.replaceAt [0, 0, 0] namedOpening, [1]⟩ ∧
      Selection.of typedWalls (typedUnfilling.replaceAt [0, 0, 0] anyOpening) =
        .ok ⟨typedUnfilling.replaceAt [0, 0, 0] anyOpening, [1, 2]⟩ ∧
      [(1 : Int)].Sublist [1, 2]) ∧
    ¬ Even (typedUnfilling.body.negations [0, 1]) ∧
      Selection.of typedWalls (typedUnfilling.replaceAt [0, 1] namedOpening) =
        .ok ⟨typedUnfilling.replaceAt [0, 1] namedOpening, [2, 3]⟩ ∧
      Selection.of typedWalls (typedUnfilling.replaceAt [0, 1] anyOpening) =
        .ok ⟨typedUnfilling.replaceAt [0, 1] anyOpening, [3]⟩ ∧
      [(3 : Int)].Sublist [2, 3] := by
  have himp : ∀ e ∈ typedWalls.records, Implies (namedOpening.holds (some typedWalls) e)
      (anyOpening.holds (some typedWalls) e) := fun e _ => implies_anyOpening _ e
  have heven : Even (typedUnfilling.body.negations [0, 0, 0]) := ⟨1, rfl⟩
  have hodd : ¬ Even (typedUnfilling.body.negations [0, 1]) := by
    show ¬ Even 1
    decide
  have hmonotone := (replaceAt_monotone namedOpening anyOpening).2 typedWalls himp typedUnfilling
  refine ⟨himp, ⟨heven, rfl, rfl, ?_⟩, hodd, rfl, rfl, ?_⟩
  · exact (hmonotone [0, 0, 0] _ _ rfl rfl).1 heven
  · exact (hmonotone [0, 1] _ _ rfl rfl).2 hodd

end BuildingQuery
