import BuildingQuery.Proofs.Input.RawSets

/-! Asking a graph for the entities of a type, by the ids that are listed for each type and by
looking at every entity. Types are asked for in any case, but listed as each entity has them, and
only the first listed type that fits is answered. So both ways agree on a type exactly if its
entities are all spelled as the type that is listed first. -/

namespace BuildingQuery.EntityGraph

/-- The graph with no ids by type. -/
def unlisted (g : EntityGraph) : EntityGraph := { g with idsByType := [] }

/-- The entity is of the type, in any case. -/
def HasType (typeName : String) (e : Entity) : Prop := Text.upper e.typeName = Text.upper typeName

instance (typeName : String) (e : Entity) : Decidable (HasType typeName e) :=
  inferInstanceAs (Decidable (_ = _))

/-- The ids of the entities whose type is written as this text, in the order of the entities. -/
def idsSpelled (g : EntityGraph) (text : String) : List Int :=
  (g.entities.filter fun p => p.2.typeName = text).map (·.1)

/-- The type of every entity is listed, and under each listed type are its entities. -/
structure ListsTypes (g : EntityGraph) : Prop where
  own : ∀ p ∈ g.entities, p.2.typeName ∈ g.idsByType.keys
  exact : ∀ e ∈ g.idsByType, e.2 = g.idsSpelled e.1

/-- The spelling under which a type is listed first. -/
def listedSpelling? (g : EntityGraph) (typeName : String) : Option String :=
  (g.idsByType.find? fun e => Text.upper e.1 == Text.upper typeName).map (·.1)

/-- Every entity of the type has the spelling under which it is listed first. -/
def OneSpelling (g : EntityGraph) (typeName : String) : Prop :=
  ∀ p ∈ g.entities, HasType typeName p.2 → g.listedSpelling? typeName = some p.2.typeName

variable {g : EntityGraph} {typeName text : String}

theorem mem_idsSpelled {id : Int} :
    id ∈ g.idsSpelled text ↔ ∃ e, (id, e) ∈ g.entities ∧ e.typeName = text := by
  simp [idsSpelled]

theorem idsOfType_unlisted (g : EntityGraph) (typeName : String) :
    g.unlisted.idsOfType typeName =
      (g.entities.filter fun p => HasType typeName p.2).map (·.1) := by
  have hscan : g.unlisted.idsOfType typeName = g.entities.filterMap fun p =>
      if Text.upper p.2.typeName == Text.upper typeName then some p.1 else none := rfl
  rw [hscan, ← List.filterMap_eq_filter, List.map_filterMap]
  refine List.filterMap_congr fun p _ => ?_
  by_cases hp : Text.upper p.2.typeName = Text.upper typeName <;> simp [HasType, hp]

theorem mem_idsOfType_unlisted {id : Int} : id ∈ g.unlisted.idsOfType typeName ↔
    ∃ e, (id, e) ∈ g.entities ∧ HasType typeName e := by
  simp [idsOfType_unlisted]

section Listed

variable (hl : g.ListsTypes) (hne : g.idsByType ≠ [])
include hl hne

theorem idsOfType_of_listed (h : g.listedSpelling? typeName = some text) :
    g.idsOfType typeName = g.idsSpelled text ∧ Text.upper text = Text.upper typeName := by
  obtain ⟨e, he, rfl⟩ := Option.map_eq_some_iff.mp h
  have hempty : g.idsByType.isEmpty = false := by simpa using hne
  refine ⟨?_, by simpa using List.find?_some he⟩
  rw [idsOfType, hempty, he]
  exact hl.exact e (List.mem_of_find?_eq_some he)

theorem idsOfType_of_not_listed (h : g.listedSpelling? typeName = none) :
    g.idsOfType typeName = [] ∧ ∀ p ∈ g.entities, ¬ HasType typeName p.2 := by
  have hnone := Option.map_eq_none_iff.mp h
  have hempty : g.idsByType.isEmpty = false := by simpa using hne
  refine ⟨by rw [idsOfType, hempty, hnone]; rfl, fun p hp htype => ?_⟩
  obtain ⟨e, he, hkey⟩ := List.mem_map.mp (hl.own p hp)
  have htype : Text.upper e.1 = Text.upper typeName := hkey ▸ htype
  exact List.find?_eq_none.mp hnone e he (beq_iff_eq.mpr htype)

theorem idsOfType_sublist (typeName : String) :
    (g.idsOfType typeName).Sublist (g.unlisted.idsOfType typeName) := by
  cases h : g.listedSpelling? typeName with
  | none => simp [(idsOfType_of_not_listed hl hne h).1]
  | some text =>
    obtain ⟨hids, htext⟩ := idsOfType_of_listed hl hne h
    rw [hids, idsSpelled, idsOfType_unlisted]
    refine (List.monotone_filter_right _ fun p hp => ?_).map _
    obtain rfl := of_decide_eq_true hp
    exact decide_eq_true htext

theorem idsOfType_eq_of_oneSpelling (h : g.OneSpelling typeName) :
    g.idsOfType typeName = g.unlisted.idsOfType typeName := by
  rw [idsOfType_unlisted]
  cases hs : g.listedSpelling? typeName with
  | none =>
    obtain ⟨hids, hno⟩ := idsOfType_of_not_listed hl hne hs
    rw [hids, List.filter_eq_nil_iff.mpr fun p hp => by simpa using hno p hp, List.map_nil]
  | some text =>
    obtain ⟨hids, htext⟩ := idsOfType_of_listed hl hne hs
    rw [hids, idsSpelled]
    refine congrArg _ (List.filter_congr fun p hp => decide_eq_decide.mpr ?_)
    constructor
    · rintro rfl
      exact htext
    · intro htype
      exact Option.some.inj ((h p hp htype).symm.trans hs)

theorem oneSpelling_of_mem_iff (hg : g.entities.keys.Nodup)
    (h : ∀ id, id ∈ g.idsOfType typeName ↔ id ∈ g.unlisted.idsOfType typeName) :
    g.OneSpelling typeName := by
  rintro ⟨id, e⟩ he htype
  have hid := (h id).mpr (mem_idsOfType_unlisted.mpr ⟨e, he, htype⟩)
  cases hs : g.listedSpelling? typeName with
  | none => simp [(idsOfType_of_not_listed hl hne hs).1] at hid
  | some text =>
    rw [(idsOfType_of_listed hl hne hs).1, mem_idsSpelled] at hid
    obtain ⟨e', he', rfl⟩ := hid
    have hsame : (id, e') = (id, e) := List.inj_on_of_nodup_map hg he' he rfl
    rw [(Prod.mk.inj hsame).2]

theorem mem_idsOfType_iff_oneSpelling (hg : g.entities.keys.Nodup) :
    (∀ id, id ∈ g.idsOfType typeName ↔ id ∈ g.unlisted.idsOfType typeName) ↔
      g.OneSpelling typeName := by
  refine ⟨oneSpelling_of_mem_iff hl hne hg, fun h id => ?_⟩
  rw [idsOfType_eq_of_oneSpelling hl hne h]

theorem mem_keys_iff_oneSpelling (hg : g.entities.keys.Nodup) {σ : Type} {P P' : Entity → σ → Prop}
    {m m' : OrderedMap Int σ} (h : g.Extracts typeName P m)
    (h' : g.unlisted.Extracts typeName P' m') :
    (∀ id, id ∈ m.keys ↔ id ∈ m'.keys) ↔ g.OneSpelling typeName := by
  rw [← mem_idsOfType_iff_oneSpelling hl hne hg]
  refine forall_congr' fun id => ?_
  have hscanned : id ∈ g.unlisted.idsOfType typeName → id ∈ g.entities.keys := by
    intro hid
    obtain ⟨e, he, -⟩ := mem_idsOfType_unlisted.mp hid
    exact List.mem_map.mpr ⟨_, he, rfl⟩
  have hm : id ∈ m.keys ↔ id ∈ g.idsOfType typeName := (h.mem_keys_iff id).trans
    (and_iff_left_of_imp fun hid => hscanned ((idsOfType_sublist hl hne typeName).subset hid))
  have hm' : id ∈ m'.keys ↔ id ∈ g.unlisted.idsOfType typeName :=
    (h'.mem_keys_iff id).trans (and_iff_left_of_imp hscanned)
  rw [hm, hm']

end Listed

theorem ofType_congr (h : g.idsOfType typeName = g.unlisted.idsOfType typeName) :
    g.ofType typeName = g.unlisted.ofType typeName := by
  rw [ofType, ofType, h]
  rfl

/-- A list of the types of all entities shortens the answer for a type to the entities that are
spelled as it is listed first, in their order. It leaves no entity out, and the same sets are
read, exactly if these are all. -/
theorem listing_agrees_iff (hg : g.entities.keys.Nodup) (hl : g.ListsTypes)
    (hne : g.idsByType ≠ []) :
    (∀ typeName, (g.idsOfType typeName).Sublist (g.unlisted.idsOfType typeName) ∧
      ((∀ id, id ∈ g.idsOfType typeName ↔ id ∈ g.unlisted.idsOfType typeName) ↔
        g.OneSpelling typeName) ∧
      (g.OneSpelling typeName → g.idsOfType typeName = g.unlisted.idsOfType typeName)) ∧
    (∀ m m', g.propertySets = .ok m → g.unlisted.propertySets = .ok m' →
      ((∀ id, id ∈ m.keys ↔ id ∈ m'.keys) ↔ g.OneSpelling "IFCPROPERTYSET")) ∧
    (∀ m m', g.quantitySets = .ok m → g.unlisted.quantitySets = .ok m' →
      ((∀ id, id ∈ m.keys ↔ id ∈ m'.keys) ↔ g.OneSpelling "IFCELEMENTQUANTITY")) ∧
    (g.OneSpelling "IFCPROPERTYSET" → g.propertySets = g.unlisted.propertySets) ∧
    (g.OneSpelling "IFCELEMENTQUANTITY" → g.quantitySets = g.unlisted.quantitySets) := by
  refine ⟨fun typeName => ⟨idsOfType_sublist hl hne typeName,
    mem_idsOfType_iff_oneSpelling hl hne hg, idsOfType_eq_of_oneSpelling hl hne⟩,
    fun m m' hm hm' => ?_, fun m m' hm hm' => ?_, fun h => ?_, fun h => ?_⟩
  · exact mem_keys_iff_oneSpelling hl hne hg (extracts_propertySets hm) (extracts_propertySets hm')
  · exact mem_keys_iff_oneSpelling hl hne hg (extracts_quantitySets hm) (extracts_quantitySets hm')
  · rw [propertySets_eq, propertySets_eq, ofType_congr (idsOfType_eq_of_oneSpelling hl hne h)]
    rfl
  · rw [quantitySets_eq, quantitySets_eq, ofType_congr (idsOfType_eq_of_oneSpelling hl hne h)]
    rfl

/-- Two property sets, the types of which are spelled differently. -/
def twoSpellings : EntityGraph where
  entities := [
    (1, ⟨1, "IFCPROPERTYSET", .positional [.str "p", .null, .str "Pset_WallCommon", .null,
      .list [.int 3]]⟩),
    (2, ⟨2, "IfcPropertySet", .positional [.str "q", .null, .str "Pset_Other", .null,
      .list [.int 3]]⟩),
    (3, ⟨3, "IFCPROPERTYSINGLEVALUE", .positional [.str "IsExternal", .null, .bool true]⟩)]
  idsByType := [("IFCPROPERTYSET", [1]), ("IfcPropertySet", [2]), ("IFCPROPERTYSINGLEVALUE", [3])]

theorem listing_agrees_iff_singleValues :
    twoSpellings.idsOfType "IfcPropertySingleValue" =
      twoSpellings.unlisted.idsOfType "IfcPropertySingleValue" := by
  have hl : twoSpellings.ListsTypes := ⟨by decide, by decide⟩
  have hone : twoSpellings.OneSpelling "IfcPropertySingleValue" := by
    unfold OneSpelling
    decide +kernel
  exact ((listing_agrees_iff (by decide) hl (by decide)).1 _).2.2 hone

theorem twoSpellings_halved :
    (twoSpellings.entities.keys.Nodup ∧ twoSpellings.ListsTypes) ∧
      (twoSpellings.idsOfType "IFCPROPERTYSET" = [1] ∧
        twoSpellings.unlisted.idsOfType "IFCPROPERTYSET" = [1, 2]) ∧
      twoSpellings.propertySets.toOption.map OrderedMap.keys = some [1] ∧
      twoSpellings.unlisted.propertySets.toOption.map OrderedMap.keys = some [1, 2] := by
  refine ⟨⟨by decide, by decide, by decide⟩, ?_, ?_⟩ <;> decide +kernel

end BuildingQuery.EntityGraph
