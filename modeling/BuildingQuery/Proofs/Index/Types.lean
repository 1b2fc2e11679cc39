import BuildingQuery.Proofs.Index.Coherence
import BuildingQuery.Proofs.Selection.Scan
import BuildingQuery.Proofs.Text.Case
import Mathlib.Data.List.Flatten

/-! The elements of a type. To look a type up in an index, by the spelling of the hierarchy and in
upper case, gives the same elements as to test every record for the type by its own ancestry and in
lower case. -/

namespace BuildingQuery

namespace Hierarchy

/-- The table is written in ASCII. -/
def IsAscii (h : Hierarchy) : Prop :=
  (∀ name ∈ h.parents.keys, Text.isAscii name = true) ∧
    ∀ p ∈ h.parents, ∀ up ∈ p.2, Text.isAscii up = true

end Hierarchy

def typeQuery (typeName : String) (subtypes : Bool) : Value := Value.record [
  ("type", .str "entityType"),
  ("entityType", .str typeName),
  ("includeSubtypes", .bool subtypes)]

def typeRule (typeName : String) (subtypes : Bool) : Rule :=
  Rule.inline [.type ⟨.one typeName, subtypes, none⟩]

theorem ofQuery_typeQuery (typeName : String) (subtypes : Bool) :
    Rule.ofQuery (typeQuery typeName subtypes) = .ok (typeRule typeName subtypes) := rfl

/-- A pattern without wildcards accepts the names that have its upper form. -/
theorem Pattern.accepts_eq_upper {p s : String} (hw : hasWildcard p = false)
    (hp : Text.isAscii p = true) (hs : Text.isAscii s = true) :
    accepts p s = (Text.upper s == Text.upper p) := by
  rw [accepts, hw, if_neg Bool.false_ne_true, Bool.eq_iff_iff, beq_iff_eq, beq_iff_eq,
    Text.lower_eq_iff_upper_eq hs hp]

variable {h : Hierarchy} {ix : Index} {t : String} {subtypes : Bool}

namespace Index

/-- Whether the lookup takes in the elements of a type. -/
def takesType (ix : Index) (t : String) (subtypes : Bool) (name : String) : Bool :=
  if subtypes then ix.hierarchy.isSubtype name t else Text.upper name == Text.upper t

theorem idsOfType_eq (ix : Index) (t : String) (subtypes : Bool) :
    ix.idsOfType t subtypes =
      (ix.byType.filter fun p => ix.takesType t subtypes p.1).flatMap (·.2) := rfl

theorem Tallied.nodup_idsOfType (ht : ix.Tallied) (t : String) (subtypes : Bool) :
    (ix.idsOfType t subtypes).Nodup := by
  have hsub : (ix.idsOfType t subtypes).Sublist (ix.byType.flatMap (·.2)) := by
    rw [idsOfType_eq]
    exact List.filter_sublist.flatMap _
  exact (ht.byType_perm.nodup_iff.mpr ht.keyed.nodup).sublist hsub

theorem Tallied.idsOfType_perm (ht : ix.Tallied) (t : String) (subtypes : Bool) :
    (ix.idsOfType t subtypes).Perm
      ((ix.records.filter fun e => ix.takesType t subtypes e.typeName).map (·.id)) := by
  have hids : (ix.records.map (·.id)).Nodup := ht.keyed.map_id ▸ ht.keyed.nodup
  refine (List.perm_ext_iff_of_nodup (ht.nodup_idsOfType t subtypes)
    (hids.sublist (List.filter_sublist.map _))).mpr fun id => ?_
  rw [idsOfType_eq, List.mem_flatMap, List.mem_map]
  constructor
  · rintro ⟨p, hp, hid⟩
    obtain ⟨hp, htake⟩ := List.mem_filter.mp hp
    have hget := (OrderedMap.get?_eq_some_iff ht.byType.keys_nodup).mpr hp
    obtain ⟨e, he, rfl, hkey⟩ := ht.byType.mem_iff.mp (by rwa [hget, Option.getD_some])
    rw [List.mem_singleton] at hkey
    exact ⟨e, List.mem_filter.mpr ⟨he, hkey ▸ htake⟩, rfl⟩
  · rintro ⟨e, he, rfl⟩
    obtain ⟨he, htake⟩ := List.mem_filter.mp he
    have hid : e.id ∈ (ix.byType.get? e.typeName).getD [] :=
      ht.byType.mem_iff.mpr ⟨e, he, rfl, List.mem_singleton_self _⟩
    cases hget : ix.byType.get? e.typeName with
    | none => simp [hget] at hid
    | some ids =>
      rw [hget, Option.getD_some] at hid
      have hp := (OrderedMap.get?_eq_some_iff ht.byType.keys_nodup).mp hget
      exact ⟨_, List.mem_filter.mpr ⟨hp, htake⟩, hid⟩

end Index

theorem TypeTest.holds_eq_any {t : TypeTest} (ht : t.predefinedType = none) (e : Element) :
    t.holds e = .ok (t.names.toList.any (t.typeHolds e)) := by
  rw [holds, predefinedHolds, ht]
  cases t.names.toList.any (t.typeHolds e) <;> rfl

namespace Input

variable {i : Input}

theorem typeHolds_eq_takesType (hn : i.graph.entities.keys.Nodup)
    (hi : ∀ p ∈ i.graph.entities, Text.isAscii p.2.typeName = true) (hh : h.IsAscii)
    (hw : Pattern.hasWildcard t = false) (ht : Text.isAscii t = true) {e : Element}
    (he : e ∈ (i.index h).records) :
    (TypeTest.mk (.one t) subtypes none).typeHolds e t =
      (i.index h).takesType t subtypes e.typeName := by
  obtain ⟨p, hp, rfl⟩ := mem_records_index he
  have hname : Text.isAscii (h.resolve p.2.typeName) = true := by
    rcases h.resolve_eq_or_mem p.2.typeName with hr | hr
    · rw [hr]
      exact hi p hp
    · exact hh.1 _ hr
  have hchain : ∀ s ∈ h.chain (h.resolve p.2.typeName), Text.isAscii s = true :=
    Hierarchy.forall_mem_chain hh.1 hh.2 hname
  rw [Index.takesType, (i.index_built h hn).hierarchy]
  cases subtypes with
  | false => exact Pattern.accepts_eq_upper hw ht hname
  | true =>
    simp only [TypeTest.typeHolds, record, Hierarchy.isSubtype, if_true]
    rw [Bool.eq_iff_iff, List.any_eq_true, List.any_eq_true]
    -- One side tests the names above the record's type by their upper form, the other by patterns.
    refine exists_congr fun s => and_congr_right fun hs => ?_
    rw [Pattern.accepts_eq_upper hw ht (hchain s hs)]

theorem typeRule_holds (ix : Index) (e : Element) :
    (typeRule t subtypes).mode.holds (some ix) e (typeRule t subtypes).conditions =
      .ok ((TypeTest.mk (.one t) subtypes none).typeHolds e t) := by
  have hc : (TypeTest.mk (.one t) subtypes none).holds e =
      .ok ((TypeTest.mk (.one t) subtypes none).typeHolds e t) := by
    rw [TypeTest.holds_eq_any rfl]
    simp [TypeNames.toList]
  rw [typeRule, Rule.inline, RuleMode.holds, Condition.allHold, Condition.holds, hc]
  cases (TypeTest.mk (.one t) subtypes none).typeHolds e t <;> rfl

/-- In the index of any input whose types and hierarchy are written in ASCII, to look up a type
without wildcards gives every element that a query for the type selects, once, with the subtypes or
without. -/
theorem typeLookup_perm_query (i : Input) (h : Hierarchy) (hn : i.graph.entities.keys.Nodup)
    (hi : ∀ p ∈ i.graph.entities, Text.isAscii p.2.typeName = true) (hh : h.IsAscii)
    (hw : Pattern.hasWildcard t = false) (ht : Text.isAscii t = true) (subtypes : Bool) :
    ∃ r s, Rule.ofQuery (typeQuery t subtypes) = .ok r ∧ Selection.of (i.index h) r = .ok s ∧
      ((i.index h).idsOfType t subtypes).Nodup ∧
      ((i.index h).idsOfType t subtypes).Perm s.ids ∧
      (((i.index h).idsOfType t subtypes).map (i.index h).get?).Perm
        ((s.elements (i.index h)).map some) := by
  have hb := (i.index_built h hn).tallied
  have hmet : ∀ e ∈ (i.index h).records,
      (typeRule t subtypes).mode.holds (some (i.index h)) e (typeRule t subtypes).conditions =
        .ok ((i.index h).takesType t subtypes e.typeName) := by
    intro e he
    rw [← typeHolds_eq_takesType hn hi hh hw ht he, typeRule_holds]
  have hperm := hb.idsOfType_perm t subtypes
  obtain ⟨es, hes⟩ : ∃ es, es = (i.index h).records.filter fun e =>
    (i.index h).takesType t subtypes e.typeName := ⟨_, rfl⟩
  have hsel : Selection.of (i.index h) (typeRule t subtypes) =
      .ok ⟨typeRule t subtypes, es.map (·.id)⟩ := by
    rw [Selection.of, filterM_ok hmet, hes]
    rfl
  rw [← hes] at hperm
  refine ⟨_, _, ofQuery_typeQuery t subtypes, hsel, hb.nodup_idsOfType t subtypes, hperm, ?_⟩
  have hget : ∀ e ∈ es, (i.index h).get? e.id = some e := by
    intro e he
    rw [hes] at he
    exact hb.keyed.get?_eq_some_iff.mpr ⟨(List.mem_filter.mp he).1, rfl⟩
  have helements : (es.map (·.id)).filterMap (i.index h).get? = es := by
    rw [List.filterMap_map]
    exact (List.filterMap_congr hget).trans List.filterMap_some
  have hmap : (es.map (·.id)).map (i.index h).get? = es.map some := by
    rw [List.map_map]
    exact List.map_congr_left hget
  rw [Selection.elements, helements, ← hmap]
  exact hperm.map _

/-- Types in two spellings, a type below another one, and one that is its own supertype. -/
def wallTypes : Hierarchy where
  parents := [
    ("IfcProduct", none),
    ("IfcWall", some "IfcProduct"),
    ("IfcWallStandardCase", some "IfcWall"),
    ("IfcDoor", some "IfcProduct"),
    ("IfcLoop", some "IfcLoop")]

def wallsInTwoSpellings : Input where
  graph := {
    entities := [
      (4, ⟨4, "IFCWALL", .positional []⟩),
      (9, ⟨9, "IfcLoop", .positional []⟩),
      (2, ⟨2, "IfcDoor", .positional []⟩),
      (7, ⟨7, "IfcWallStandardCase", .positional []⟩),
      (5, ⟨5, "ifcwall", .positional []⟩)]
    idsByType := [] }

theorem typeLookup_perm_query_walls :
    wallsInTwoSpellings.graph.entities.keys.Nodup ∧
      (∀ p ∈ wallsInTwoSpellings.graph.entities, Text.isAscii p.2.typeName = true) ∧
      wallTypes.IsAscii ∧ Pattern.hasWildcard "ifcWall" = false ∧
      Text.isAscii "ifcWall" = true ∧
      (wallsInTwoSpellings.index wallTypes).idsOfType "ifcWall" true = [4, 5, 7] ∧
      ∃ r s, Rule.ofQuery (typeQuery "ifcWall" true) = .ok r ∧
        Selection.of (wallsInTwoSpellings.index wallTypes) r = .ok s ∧
        [(4 : Int), 5, 7].Perm s.ids := by
  have hn : wallsInTwoSpellings.graph.entities.keys.Nodup := by decide
  have hi : ∀ p ∈ wallsInTwoSpellings.graph.entities, Text.isAscii p.2.typeName = true := by decide
  have hh : wallTypes.IsAscii := ⟨by decide, by decide⟩
  have hw : Pattern.hasWildcard "ifcWall" = false := by decide
  have ht : Text.isAscii "ifcWall" = true := by decide
  have hids : (wallsInTwoSpellings.index wallTypes).idsOfType "ifcWall" true = [4, 5, 7] := by rfl
  obtain ⟨r, s, hr, hs, -, hperm, -⟩ :=
    typeLookup_perm_query wallsInTwoSpellings wallTypes hn hi hh hw ht true
  exact ⟨hn, hi, hh, hw, ht, hids, r, s, hr, hs, hids ▸ hperm⟩

end Input

end BuildingQuery
