import BuildingQuery.Proofs.Condition.Replacement
import BuildingQuery.Proofs.Selection.Found

/-! Broken conditions in a rule: of the conditions that are not known, and of the expressions that
cannot be read, what they can do to a selection. They take elements away, unless an odd number of
groups around them asks for none of its members; there they can only add some. -/

namespace BuildingQuery

open Condition

/-- The rule with another condition at a place, the first number of which is that of one of its own
conditions. -/
def Rule.replaceAt (r : Rule) (path : List Nat) (new : Condition) : Rule :=
  match path with
  | [] => r
  | i :: path => { r with conditions := r.conditions.modify i fun c => c.replaceAt path new }

variable {ix : Index}

theorem Rule.body_replaceAt (r : Rule) (path : List Nat) (new : Condition) :
    (r.replaceAt path new).body = r.body ∨
      (r.replaceAt path new).body = r.body.replaceAt path new := by
  cases path with
  | nil => exact .inl rfl
  | cons i path => exact .inr rfl

/-- If no record that fails to meet the one rule meets the other, the other selects no more. -/
theorem Selection.sublist_of_not_turns {r r' : Rule} {s s' : Selection}
    (h : Selection.of ix r = .ok s) (h' : Selection.of ix r' = .ok s')
    (ht : ∀ e ∈ ix.records, ¬ Turns true (r.body.holds (some ix) e) (r'.body.holds (some ix) e)) :
    s'.ids.Sublist s.ids := by
  obtain ⟨hr, hids⟩ := Selection.eq_of_ok h
  obtain ⟨hr', hids'⟩ := Selection.eq_of_ok h'
  have himp : ∀ e ∈ ix.records, r'.body.isMetBy (some ix) e =
      (r'.body.isMetBy (some ix) e && r.body.isMetBy (some ix) e) := by
    intro e he
    have hn := ht e he
    rw [hr e he, hr' e he] at hn
    cases hm : r.body.isMetBy (some ix) e <;> cases hm' : r'.body.isMetBy (some ix) e <;>
      simp_all [Turns]
  rw [hids, hids', List.filter_congr himp, ← List.filter_filter]
  exact List.filter_sublist.map _

theorem Selection.sublist_replaceAt {new : Condition} (hn : new.Broken) {r : Rule}
    {path : List Nat} (hp : Even (r.body.negations path)) {s s' : Selection}
    (h : Selection.of ix r = .ok s) (h' : Selection.of ix (r.replaceAt path new) = .ok s') :
    s'.ids.Sublist s.ids := by
  refine Selection.sublist_of_not_turns h h' fun e _ => ?_
  rcases r.body_replaceAt path new with hb | hb
  · rw [hb]
    exact not_turns_self _ _
  · have ht := not_turns_of_ne_true (hn.holds_ne_true (some ix) e) r.body path
    rw [hb]
    simpa only [hp, decide_true] using ht

/-- A broken condition in the place of another one. Where an even number of groups around the place
asks for none of its members, it turns no tree that is not met into one that is, whatever else fails
on the way, and a rule selects no element that it did not select before. Where the number is odd, it
turns no tree that is met into one that is not. -/
theorem broken_only_removes {new : Condition} (hn : new.Broken) :
    (∀ ix e (c : Condition) path, Even (c.negations path) →
      c.holds ix e = .ok false → (c.replaceAt path new).holds ix e ≠ .ok true) ∧
    (∀ ix (r : Rule) path s s', Even (r.body.negations path) → Selection.of ix r = .ok s →
      Selection.of ix (r.replaceAt path new) = .ok s' → s'.ids.Sublist s.ids) ∧
    (∀ ix e (c : Condition) path, ¬ Even (c.negations path) →
      c.holds ix e = .ok true → (c.replaceAt path new).holds ix e ≠ .ok false) := by
  have hturns (ix e) (c : Condition) (path) := not_turns_of_ne_true
    (hn.holds_ne_true ix e) c path
  refine ⟨fun ix e c path hp hc hr => ?_, fun ix r path s s' hp h h' => ?_,
    fun ix e c path hp hc hr => ?_⟩
  · have ht := hturns ix e c path
    simp only [hp, decide_true] at ht
    exact ht ⟨hc, hr⟩
  · exact Selection.sublist_replaceAt hn hp h h'
  · have ht := hturns ix e c path
    simp only [hp, decide_false] at ht
    exact ht ⟨hc, hr⟩

/-- Walls that have an opening or a type. -/
def cutOrTyped : Rule := Rule.inline [
  .type ⟨.one "IfcWall", true, none⟩,
  .group .none [
    .type ⟨.one "IfcDoor", true, none⟩,
    .group .none [.relation ⟨.hasOpenings, none⟩, .relation ⟨.hasType, none⟩]]]

def threeWalls : Index where
  elements := [
    (1, { Element.plain 1 "IfcWall" with relations := { hasOpenings := [4] } }),
    (2, Element.plain 2 "IfcWall"),
    (3, { Element.plain 3 "IfcWall" with relations := { hasType := some 5 } })]
  hierarchy := ⟨[]⟩

def openBracket : Condition := .attributeText ⟨.name, .matches, "("⟩

theorem broken_only_removes_openBracket :
    openBracket.Broken ∧ Even (cutOrTyped.body.negations [1, 1, 0]) ∧
      Selection.of threeWalls cutOrTyped = .ok ⟨cutOrTyped, [1, 3]⟩ ∧
      Selection.of threeWalls (cutOrTyped.replaceAt [1, 1, 0] openBracket) =
        .ok ⟨cutOrTyped.replaceAt [1, 1, 0] openBracket, [3]⟩ ∧ [(3 : Int)].Sublist [1, 3] := by
  have hb : openBracket.Broken := .expression (show Regex.read "(" = .error .malformed by rfl)
  have he : Even (cutOrTyped.body.negations [1, 1, 0]) := ⟨1, rfl⟩
  have hs : Selection.of threeWalls cutOrTyped = .ok ⟨cutOrTyped, [1, 3]⟩ := by rfl
  have hs' : Selection.of threeWalls (cutOrTyped.replaceAt [1, 1, 0] openBracket) =
      .ok ⟨cutOrTyped.replaceAt [1, 1, 0] openBracket, [3]⟩ := by rfl
  exact ⟨hb, he, hs, hs', (broken_only_removes hb).2.1 _ _ _ _ _ he hs hs'⟩

/-- Walls that are no walls: none, unless the inner condition breaks. -/
theorem broken_adds_under_negation :
    (Condition.unknown "geometry" []).Broken ∧
      (group .none [.type ⟨.one "IfcWall", true, none⟩]).holds none (Element.plain 1 "IfcWall") =
        .ok false ∧
      ((group .none [.type ⟨.one "IfcWall", true, none⟩]).replaceAt [0]
        (.unknown "geometry" [])).holds none (Element.plain 1 "IfcWall") = .ok true :=
  ⟨.unknown _ _, by rfl, by rfl⟩

end BuildingQuery
