import BuildingQuery.Proofs.Condition.Formula
import BuildingQuery.Proofs.Index.Coherence
import BuildingQuery.Proofs.Selection.Scan

/-! What a rule finds: the records of an index that meet it, if no test of a record fails. -/

namespace BuildingQuery

namespace Selection

open Condition

variable {ix : Index} {r : Rule} {s : Selection}

theorem eq_of_ok (h : Selection.of ix r = .ok s) :
    (∀ e ∈ ix.records, r.body.holds (some ix) e = .ok (r.body.isMetBy (some ix) e)) ∧
      s.ids = (ix.records.filter fun e => r.body.isMetBy (some ix) e).map (·.id) := by
  rw [Selection.of] at h
  cases hf : ix.records.filterM fun e => r.mode.holds (some ix) e r.conditions with
  | error x => simp [hf, bind, Except.bind] at h
  | ok found =>
    have hmet : ∀ e ∈ ix.records,
        r.mode.holds (some ix) e r.conditions = .ok (r.body.isMetBy (some ix) e) := by
      intro e he
      obtain ⟨b, hb⟩ := ok_of_filterM_ok hf e he
      rw [hb, isMetBy_of_ok ((r.holds_body _ _).trans hb)]
    refine ⟨fun e he => (r.holds_body _ _).trans (hmet e he), ?_⟩
    rw [filterM_ok hmet] at hf
    rw [filterM_ok hmet] at h
    cases h
    rfl

theorem elements_of_sublist (h : ix.Keyed) {found : List Element} (hf : found.Sublist ix.records)
    (hs : s.ids = found.map (·.id)) : s.elements ix = found := by
  have hget : ∀ e ∈ found, ix.get? e.id = some e := fun e he =>
    h.get?_eq_some_iff.mpr ⟨hf.subset he, rfl⟩
  rw [elements, hs, List.filterMap_map]
  exact (List.filterMap_congr hget).trans List.filterMap_some

end Selection

end BuildingQuery
