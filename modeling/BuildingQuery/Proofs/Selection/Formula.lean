import BuildingQuery.Proofs.Condition.Formula
import BuildingQuery.Proofs.Index.Keys
import BuildingQuery.Proofs.Selection.Scan

/-! A rule selects the ids for which it is true as a formula, a leaf being true of the ids that a
query with the leaf alone finds. -/

namespace BuildingQuery

/-- No leaf of the rule fails on a record of the index. -/
def Rule.SteadyOn (ix : Index) (r : Rule) : Prop :=
  ∀ e ∈ ix.records, r.body.Steady (some ix) e

namespace Index

/-- The ids that a query with one condition selects. -/
def found (ix : Index) (c : Condition) : List Int :=
  match Selection.of ix (Rule.inline [c]) with
  | .ok s => s.ids
  | .error _ => []

def finds (ix : Index) (id : Int) (c : Condition) : Bool := (ix.found c).contains id

end Index

open Condition

variable {ix : Index}

theorem selection_of_steady {r : Rule} (h : r.SteadyOn ix) :
    Selection.of ix r =
      .ok ⟨r, (ix.records.filter fun e => r.body.truth (isMetBy (some ix) e)).map (·.id)⟩ := by
  refine Selection.of_eq_ok fun e he => ?_
  rw [← r.holds_body, holds_eq_truth (h e he)]

theorem steadyOn_inline {c : Condition} (h : ∀ e ∈ ix.records, c.Steady (some ix) e) :
    (Rule.inline [c]).SteadyOn ix := by
  intro e he l hl
  obtain ⟨d, hd, hld⟩ := mem_leaves_group.mp hl
  obtain rfl : d = c := by simpa [Rule.inline] using hd
  exact h e he l hld

theorem found_eq {c : Condition} (h : ∀ e ∈ ix.records, c.Steady (some ix) e) :
    ix.found c = (ix.records.filter fun e => c.isMetBy (some ix) e).map (·.id) := by
  have hf : ∀ e ∈ ix.records,
      (Rule.inline [c]).body.truth (isMetBy (some ix) e) = c.isMetBy (some ix) e := by
    intro e he
    rw [isMetBy_of_ok (holds_eq_truth (h e he))]
    simp [Rule.body, Rule.inline, RuleMode.kind, truth_group, GroupKind.value]
  simp only [Index.found, selection_of_steady (steadyOn_inline h), List.filter_congr hf]

theorem finds_iff (hk : ix.Keyed) {c : Condition} (h : ∀ e ∈ ix.records, c.Steady (some ix) e)
    {e : Element} (he : e ∈ ix.records) : ix.finds e.id c = c.isMetBy (some ix) e := by
  rw [Index.finds, found_eq h, Bool.eq_iff_iff, List.contains_iff_mem, List.mem_map]
  constructor
  · rintro ⟨f, hf, hid⟩
    obtain ⟨hf, hm⟩ := List.mem_filter.mp hf
    rwa [hk.eq_of_id_eq hf he hid] at hm
  · intro hm
    exact ⟨e, List.mem_filter.mpr ⟨he, hm⟩, rfl⟩

theorem truth_body_members (hk : ix.Keyed) {r : Rule} (h : r.SteadyOn ix) {e : Element}
    (he : e ∈ ix.records) :
    r.body.truth (isMetBy (some ix) e) =
      r.mode.kind.value (r.conditions.map (ix.finds e.id)) := by
  rw [Rule.body, truth_group]
  refine congrArg _ (List.map_congr_left fun c hc => ?_)
  have hs : ∀ f ∈ ix.records, c.Steady (some ix) f :=
    fun f hf l hl => h f hf l (mem_leaves_group.mpr ⟨c, hc, hl⟩)
  rw [finds_iff hk hs he, isMetBy_of_ok (holds_eq_truth (hs e he))]

theorem truth_body_finds (hk : ix.Keyed) {r : Rule} (h : r.SteadyOn ix) {e : Element}
    (he : e ∈ ix.records) :
    r.body.truth (isMetBy (some ix) e) = r.body.truth (ix.finds e.id) := by
  apply truth_congr
  intro l hl
  refine (finds_iff hk (fun f hf m hm => ?_) he).symm
  rw [leaves_of_isLeaf (isLeaf_of_mem_leaves hl), List.mem_singleton] at hm
  exact hm ▸ h f hf l hl

/-- A rule none of whose leaves fails selects, in the order of the index, the records of which it is
true as a formula, and equivalent formulas select the same. Where every record stands under its own
id, the leaves are true of what a query with the leaf alone finds; a rule that asks for all its
conditions selects what every one of them finds alone, and a rule that asks for any of them what at
least one finds. -/
theorem select_eq_formula {r : Rule} (hr : r.SteadyOn ix) :
    ∃ ids, Selection.of ix r = .ok ⟨r, ids⟩ ∧
      ids = (ix.records.filter fun e => r.body.truth (isMetBy (some ix) e)).map (·.id) ∧
      (∀ s : Rule, s.SteadyOn ix → (∀ v, s.body.truth v = r.body.truth v) →
        Selection.of ix s = .ok ⟨s, ids⟩) ∧
      (ix.Keyed →
        ids = ix.ids.filter (fun id => r.body.truth (ix.finds id)) ∧
        (r.mode = .all → ids = ix.ids.filter fun id => r.conditions.all (ix.finds id)) ∧
        (r.mode = .any → ids = ix.ids.filter fun id => r.conditions.any (ix.finds id))) := by
  refine ⟨_, selection_of_steady hr, rfl, ?_, fun hk => ⟨?_, ?_, ?_⟩⟩
  · intro s hs he
    rw [selection_of_steady hs]
    simp only [he]
  · rw [← hk.map_filter]
    exact congrArg _ (List.filter_congr fun e he => truth_body_finds hk hr he)
  · intro hm
    rw [← hk.map_filter]
    refine congrArg _ (List.filter_congr fun e he => ?_)
    simp [truth_body_members hk hr he, hm, RuleMode.kind, GroupKind.value, List.all_map]
  · intro hm
    rw [← hk.map_filter]
    refine congrArg _ (List.filter_congr fun e he => ?_)
    simp [truth_body_members hk hr he, hm, RuleMode.kind, GroupKind.value, List.any_map]

/-- Two walls, the first of which has an opening. -/
def twoWalls : Index where
  elements := [
    (1, { Element.plain 1 "IfcWall" with relations := { hasOpenings := [3] } }),
    (2, Element.plain 2 "IfcWall")]
  hierarchy := ⟨[]⟩

def withoutBoth : Rule := Rule.inline [
  .group .none [.relation ⟨.hasOpenings, none⟩, .relation ⟨.hasType, none⟩]]

def withoutEach : Rule where
  id := "each"
  name := "Each"
  description := none
  conditions := [.group .all [
    .group .none [.relation ⟨.hasOpenings, none⟩], .group .none [.relation ⟨.hasType, none⟩]]]
  mode := .any

theorem select_eq_formula_twoWalls :
    twoWalls.Keyed ∧ withoutBoth.SteadyOn twoWalls ∧
      Selection.of twoWalls withoutBoth = .ok ⟨withoutBoth, [2]⟩ ∧
      Selection.of twoWalls withoutEach = .ok ⟨withoutEach, [2]⟩ := by
  have hk : twoWalls.Keyed := ⟨by decide, by decide⟩
  have hb : withoutBoth.SteadyOn twoWalls := by
    simp [Rule.SteadyOn, Steady, leaves, leavesOfAll, withoutBoth, Rule.body, Rule.inline, holds,
      pure, Except.pure]
  have he : withoutEach.SteadyOn twoWalls := by
    simp [Rule.SteadyOn, Steady, leaves, leavesOfAll, withoutEach, Rule.body, holds, pure,
      Except.pure]
  have hv : ∀ v, withoutEach.body.truth v = withoutBoth.body.truth v := by
    intro v
    simp [withoutEach, withoutBoth, Rule.body, Rule.inline, RuleMode.kind, truth_group,
      GroupKind.value]
  obtain ⟨ids, hsel, -, hsame, hkeyed⟩ := select_eq_formula hb
  have h2 : ids = [2] := (hkeyed hk).1.trans (by decide)
  subst h2
  exact ⟨hk, hb, hsel, hsame withoutEach he hv⟩

end BuildingQuery
