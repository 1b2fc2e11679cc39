import BuildingQuery.Proofs.Index.Coherence
import BuildingQuery.Proofs.Index.Joins
import Mathlib.Logic.Relation

/-! Lists of relationships that bring the same pairs to every table. They lead to the same index,
however the pairs are grouped into relationships and however the tables take turns. -/

namespace BuildingQuery

/-- Every table is brought the same pairs in the same order. -/
def SamePairs (rs rs' : List Relationship) : Prop := ∀ k : Join, k.pairs rs = k.pairs rs'

theorem SamePairs.symm {rs rs' : List Relationship} (h : SamePairs rs rs') : SamePairs rs' rs :=
  fun k => (h k).symm

theorem SamePairs.trans {rs rs' rs'' : List Relationship} (h : SamePairs rs rs')
    (h' : SamePairs rs' rs'') : SamePairs rs rs'' := fun k => (h k).trans (h' k)

theorem SamePairs.within {rs rs' : List Relationship} (h : SamePairs rs rs')
    (before after : List Relationship) :
    SamePairs (before ++ (rs ++ after)) (before ++ (rs' ++ after)) := by
  intro k
  simp only [Join.pairs_append]
  rw [h k]

/-- One change to the grouping of relationships or to their order. -/
inductive Regroups : List Relationship → List Relationship → Prop where
  /-- Relationships of different tables change places. -/
  | swap (before after : List Relationship) {r s : Relationship}
      (h : Join.ofType? r.typeName ≠ Join.ofType? s.typeName) :
      Regroups (before ++ ([r, s] ++ after)) (before ++ ([s, r] ++ after))
  /-- Two lists of one relating element become one list. -/
  | merge (before after : List Relationship) {r s : Relationship}
      (h : Join.ofType? r.typeName = Join.ofType? s.typeName) (hr : r.relating = s.relating) :
      Regroups (before ++ ([r, s] ++ after))
        (before ++ ([{ r with related := r.related ++ s.related }] ++ after))
  | dropEmpty (before after : List Relationship) {r : Relationship} (h : r.related = []) :
      Regroups (before ++ ([r] ++ after)) (before ++ ([] ++ after))
  | dropUnread (before after : List Relationship) {r : Relationship}
      (h : Join.ofType? r.typeName = none) :
      Regroups (before ++ ([r] ++ after)) (before ++ ([] ++ after))

theorem Regroups.samePairs {rs rs' : List Relationship} (h : Regroups rs rs') :
    SamePairs rs rs' := by
  cases h with
  | @swap before after r s h =>
    refine SamePairs.within (fun k => ?_) before after
    -- One of the two brings nothing to the table.
    by_cases hr : Join.ofType? r.typeName = some k
    · have hs : Join.ofType? s.typeName ≠ some k := fun hs => h (hr.trans hs.symm)
      simp [Join.pairs, hr, hs]
    · simp [Join.pairs, hr, List.filter_cons]
  | @merge before after r s h hr =>
    refine SamePairs.within (fun k => ?_) before after
    by_cases hk : Join.ofType? s.typeName = some k
    · simp [Join.pairs, h, hk, Relationship.pairs, hr]
    · simp [Join.pairs, h, hk]
  | @dropEmpty before after r h =>
    refine SamePairs.within (fun k => ?_) before after
    by_cases hk : Join.ofType? r.typeName = some k
    · simp [Join.pairs, hk, Relationship.pairs, h]
    · simp [Join.pairs, hk]
  | dropUnread before after h =>
    refine SamePairs.within (fun k => ?_) before after
    simp [Join.pairs, h]

theorem samePairs_of_eqvGen {rs rs' : List Relationship} (h : Relation.EqvGen Regroups rs rs') :
    SamePairs rs rs' := by
  induction h with
  | rel _ _ h => exact h.samePairs
  | refl _ => exact fun _ => rfl
  | symm _ _ _ ih => exact ih.symm
  | trans _ _ _ _ _ ih ih' => exact ih.trans ih'

namespace Input

variable {rs rs' : List Relationship}

theorem record_congr (h : SamePairs rs rs') (i : Input) (hier : Hierarchy) (places : Placements)
    (id : Int) (e : Entity) :
    i.record hier places (Joins.of rs) id e = i.record hier places (Joins.of rs') id e := by
  simp only [record, Joins.definitionsOf_of, Joins.relations_of, h _]

theorem step_congr (h : SamePairs rs rs') (i : Input) (hier : Hierarchy) (places : Placements)
    (ix : Index) (p : Int × Entity) :
    i.step hier places (Joins.of rs) ix p = i.step hier places (Joins.of rs') ix p := by
  simp only [step, record_congr h, Joins.definitionsOf_of, h _]

theorem index_congr {rs rs' : Option (List Relationship)}
    (hs : SamePairs (rs.getD []) (rs'.getD [])) (i : Input) (h : Hierarchy) :
    ({ i with relationships := rs }).index h = ({ i with relationships := rs' }).index h := by
  have hstep : i.step h i.placements (Joins.of (rs.getD [])) =
      i.step h i.placements (Joins.of (rs'.getD [])) :=
    funext fun ix => funext fun p => step_congr hs i h i.placements ix p
  exact congrArg (fun step => i.graph.entities.foldl step (Index.empty h)) hstep

/-- An index is the same for all relationships that bring the same pairs to every table; so it does
not matter whether relationships of different tables take turns, how the elements of one relating
element are listed, and whether there are empty relationships and such of no table. -/
theorem index_eq_of_samePairs (i : Input) (h : Hierarchy) :
    (∀ rs rs' : Option (List Relationship), SamePairs (rs.getD []) (rs'.getD []) →
      ({ i with relationships := rs }).index h = ({ i with relationships := rs' }).index h) ∧
    ∀ rs rs' : List Relationship, Relation.EqvGen Regroups rs rs' →
      ({ i with relationships := some rs }).index h =
        ({ i with relationships := some rs' }).index h := by
  have hpairs : ∀ rs rs' : Option (List Relationship), SamePairs (rs.getD []) (rs'.getD []) →
      ({ i with relationships := rs }).index h = ({ i with relationships := rs' }).index h :=
    fun rs rs' hs => index_congr hs i h
  exact ⟨hpairs, fun rs rs' hr => hpairs (some rs) (some rs') (samePairs_of_eqvGen hr)⟩

/-- What a wall and a door are joined to, table by table. -/
def tiesByTable : List Relationship := [
  ⟨"IfcRelDefinesByProperties", 21, [4, 2]⟩,
  ⟨"IfcRelDefinesByProperties", 22, [4]⟩,
  ⟨"IfcRelDefinesByType", 25, [4]⟩,
  ⟨"IfcRelContainedInSpatialStructure", 30, [4, 2]⟩,
  ⟨"IfcRelContainedInSpatialStructure", 31, [2]⟩,
  ⟨"IfcRelConnectsElements", 4, [2, 4]⟩,
  ⟨"IfcRelVoidsElement", 4, [7, 8]⟩,
  ⟨"IfcRelFillsElement", 7, [2]⟩]

/-- The same with relationships in turns, split or empty, and with some of no table. -/
def tiesInTurns : List Relationship := [
  ⟨"IFCRELVOIDSELEMENT", 4, [7]⟩,
  ⟨"IFCRELASSOCIATESMATERIAL", 40, [4]⟩,
  ⟨"IFCRELDEFINESBYPROPERTIES", 21, [4]⟩,
  ⟨"IFCRELCONTAINEDINSPATIALSTRUCTURE", 30, [4]⟩,
  ⟨"IFCRELAGGREGATES", 50, []⟩,
  ⟨"IFCRELCONNECTSPATHELEMENTS", 4, [2]⟩,
  ⟨"IFCRELDEFINESBYPROPERTIES", 21, [2]⟩,
  ⟨"IFCRELVOIDSELEMENT", 9, []⟩,
  ⟨"IFCRELFILLSELEMENT", 7, [2]⟩,
  ⟨"IFCRELCONTAINEDINSPATIALSTRUCTURE", 30, [2]⟩,
  ⟨"IFCRELDEFINESBYPROPERTIES", 22, [4]⟩,
  ⟨"IFCRELCONNECTSELEMENTS", 4, [4]⟩,
  ⟨"IFCRELCONTAINEDINSPATIALSTRUCTURE", 31, [2]⟩,
  ⟨"IFCRELVOIDSELEMENT", 4, [8]⟩,
  ⟨"IFCRELDEFINESBYTYPE", 25, [4]⟩]

theorem index_eq_of_samePairs_inTurns :
    SamePairs tiesByTable tiesInTurns ∧
      ({ storeyWall with relationships := some tiesByTable }).index wallsAndDoors =
        ({ storeyWall with relationships := some tiesInTurns }).index wallsAndDoors := by
  have ht : tiesByTable.map (Join.ofType? ·.typeName) = [some .definition, some .definition,
      some .type, some .containment, some .containment, some .connection, some .opening,
      some .filling] := by decide +kernel
  have ht' : tiesInTurns.map (Join.ofType? ·.typeName) = [some .opening, none, some .definition,
      some .containment, some .aggregation, some .connection, some .definition, some .opening,
      some .filling, some .containment, some .definition, some .connection, some .containment,
      some .opening, some .type] := by decide +kernel
  have hs : SamePairs tiesByTable tiesInTurns := by
    simp only [tiesByTable, tiesInTurns, List.map_cons, List.cons.injEq] at ht ht'
    intro k
    cases k <;> simp [Join.pairs, Relationship.pairs, tiesByTable, tiesInTurns, ht, ht']
  exact ⟨hs, (index_eq_of_samePairs storeyWall wallsAndDoors).1 (some _) (some _) hs⟩

end Input

end BuildingQuery
