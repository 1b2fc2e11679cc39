import BuildingQuery.Proofs.Index.Coherence

/-! An input with one more entity. If the entity is no container, all records stay as they are, and
the index has at most one more, at its end. -/

namespace BuildingQuery

/-- The second map has the id at the end of the groups of the first, and in new groups behind them,
in each group as often as the keys have the group's. -/
def GroupsGain (keys : List String) (id : Int) (m m' : OrderedMap String (List Int)) : Prop :=
  ∃ new : List String, new.Nodup ∧ (∀ k, k ∈ new ↔ k ∈ keys ∧ k ∉ m.keys) ∧
    m' = List.map (fun g => (g.1, g.2 ++ List.replicate (keys.count g.1) id)) m ++
      new.map fun k => (k, List.replicate (keys.count k) id)

namespace Index

/-- The second index has one more record than the first, at the end, with its id in the lookups and
its names among those of the sets and systems. -/
structure Gains (ix : Index) (e : Element) (ix' : Index) : Prop where
  elements : ix'.elements = ix.elements ++ [(e.id, e)]
  byType : GroupsGain [e.typeName] e.id ix.byType ix'.byType
  byStorey : GroupsGain e.storeyKeys e.id ix.byStorey ix'.byStorey
  byMaterial : GroupsGain e.materialKeys e.id ix.byMaterial ix'.byMaterial
  byClassification : GroupsGain e.classificationKeys e.id ix.byClassification ix'.byClassification
  propertySets : ∀ s, s ∈ ix'.propertySets ↔ s ∈ ix.propertySets ∨ s ∈ e.properties.keys
  quantitySets : ∀ s, s ∈ ix'.quantitySets ↔ s ∈ ix.quantitySets ∨ s ∈ e.quantities.keys
  classificationSystems : ∀ s, s ∈ ix'.classificationSystems ↔
    s ∈ ix.classificationSystems ∨ ∃ c ∈ e.classifications, c.system = s
  hierarchy : ix'.hierarchy = ix.hierarchy

variable {ix : Index} {e : Element} {ps qs : List String}

theorem Tallied.gains_add (h : ix.Tallied) (hid : e.id ∉ ix.ids)
    (hp : ∀ s, s ∈ e.properties.keys ↔ s ∈ ps) (hq : ∀ s, s ∈ e.quantities.keys ↔ s ∈ qs) :
    ix.Gains e (ix.add e ps qs) where
  elements := elements_add hid
  byType := OrderedMap.pushAll_eq h.byType.keys_nodup [e.typeName] e.id
  byStorey := OrderedMap.pushAll_eq h.byStorey.keys_nodup e.storeyKeys e.id
  byMaterial := OrderedMap.pushAll_eq h.byMaterial.keys_nodup e.materialKeys e.id
  byClassification := OrderedMap.pushAll_eq h.byClassification.keys_nodup e.classificationKeys e.id
  propertySets s := mem_addNames.trans (or_congr_right (hp s).symm)
  quantitySets s := mem_addNames.trans (or_congr_right (hq s).symm)
  classificationSystems _ := mem_addNames.trans (or_congr_right List.mem_map)
  hierarchy := rfl

end Index

namespace Input

/-- The input with one more entity, however the ids by type are given then. -/
def withEntity (i : Input) (id : Int) (e : Entity) (idsByType : OrderedMap String (List Int)) :
    Input :=
  { i with graph := ⟨i.graph.entities.put id e, idsByType⟩ }

variable {i : Input} {h : Hierarchy} {id : Int} {e : Entity}
  {idsByType : OrderedMap String (List Int)}

theorem placements_withEntity (hc : ∀ c, i.containment = some c → id ∉ c.containerIds) :
    (i.withEntity id e idsByType).placements = i.placements := by
  cases hsome : i.containment with
  | none => simp only [placements, withEntity, hsome, Option.map_none]
  | some c =>
    have hplaces : c.placements (i.withEntity id e idsByType).graph = c.placements i.graph := by
      refine Containment.placements_congr fun k hk kind => ?_
      have hne : k ≠ id := by
        rintro rfl
        exact hc c hsome hk
      rw [EntityGraph.containerName, EntityGraph.containerName, withEntity,
        OrderedMap.get?_put_of_ne _ _ hne]
    simp only [placements, withEntity, hsome, Option.map_some] at hplaces ⊢
    rw [hplaces]

theorem index_withEntity (hid : id ∉ i.graph.entities.keys)
    (hc : ∀ c, i.containment = some c → id ∉ c.containerIds) :
    (i.withEntity id e idsByType).index h =
      i.step h i.placements (Joins.of (i.relationships.getD [])) (i.index h) (id, e) := by
  have hentities : (i.withEntity id e idsByType).graph.entities = i.graph.entities ++ [(id, e)] :=
    OrderedMap.put_of_not_mem hid
  rw [index, hentities, List.foldl_append, placements_withEntity hc]
  rfl

/-- An entity that is added under a new id, which is that of no container, changes nothing but that
the index has a record of it at the end if it is a product. -/
theorem index_gains_entity (i : Input) (h : Hierarchy) (id : Int) (e : Entity)
    (idsByType : OrderedMap String (List Int)) (hn : i.graph.entities.keys.Nodup)
    (hid : id ∉ i.graph.entities.keys)
    (hc : ∀ c, i.containment = some c → id ∉ c.containerIds) :
    if isProduct h e = true then
      ∃ r : Element, r.id = id ∧ r.typeName = h.resolve e.typeName ∧
        (i.index h).Gains r ((i.withEntity id e idsByType).index h)
    else (i.withEntity id e idsByType).index h = i.index h := by
  have hb := i.index_built h hn
  rw [index_withEntity hid hc, step]
  split
  case isFalse => rfl
  case isTrue =>
    have hnew : id ∉ (i.index h).ids := fun hmem => hid (hb.ids_subset hmem)
    refine ⟨_, rfl, rfl, hb.tallied.gains_add hnew (fun s => ?_) fun s => ?_⟩
    · exact SetMaps.mem_keys_properties _ _
    · exact SetMaps.mem_keys_quantities _ _

/-- A wall on a storey, where a door that is not there yet has its place and its connection. -/
def doorExpected : Input where
  graph := {
    entities := [
      (4, ⟨4, "IfcWall", .positional []⟩),
      (31, ⟨31, "IfcBuildingStorey", .positional [.null, .null, .str "Level 1"]⟩)]
    idsByType := [] }
  containment := some { storeyOf := [(4, 31), (7, 31)] }
  relationships := some [⟨"IfcRelConnectsElements", 4, [7]⟩]

theorem index_gains_entity_doorExpected :
    doorExpected.graph.entities.keys.Nodup ∧ 7 ∉ doorExpected.graph.entities.keys ∧
      (∀ c, doorExpected.containment = some c → 7 ∉ c.containerIds) ∧
      ∃ r, r.id = 7 ∧ r.typeName = "IfcDoor" ∧
        (doorExpected.index wallsAndDoors).Gains r
          ((doorExpected.withEntity 7 ⟨7, "IFCDOOR", .positional []⟩ []).index wallsAndDoors) ∧
        ((doorExpected.withEntity 7 ⟨7, "IFCDOOR", .positional []⟩ []).index
          wallsAndDoors).byStorey = [("Level 1", [4, 7])] := by
  have hn : doorExpected.graph.entities.keys.Nodup := by decide
  have hid : 7 ∉ doorExpected.graph.entities.keys := by decide
  have hc : ∀ c, doorExpected.containment = some c → 7 ∉ c.containerIds := by
    rintro _ ⟨rfl⟩
    decide
  have hgains := index_gains_entity doorExpected wallsAndDoors 7 ⟨7, "IFCDOOR", .positional []⟩ []
    hn hid hc
  rw [if_pos (by decide +kernel)] at hgains
  obtain ⟨r, hr, htype, hgains⟩ := hgains
  exact ⟨hn, hid, hc, r, hr, htype.trans (by decide +kernel), hgains, by decide +kernel⟩

end Input

end BuildingQuery
