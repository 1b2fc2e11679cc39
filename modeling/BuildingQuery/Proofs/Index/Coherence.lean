import BuildingQuery.Proofs.Checked
import BuildingQuery.Proofs.Index.Placement

/-! The parts of a built index agree: the records with the entities, and each lookup with the
records. -/

namespace BuildingQuery

namespace Index

variable {ix : Index}

theorem Keyed.get?_eq_some_iff (h : ix.Keyed) {id : Int} {e : Element} :
    ix.get? id = some e ↔ e ∈ ix.records ∧ e.id = id := by
  rw [get?, OrderedMap.get?_eq_some_iff h.nodup, records, OrderedMap.values, List.mem_map]
  constructor
  · intro hp
    exact ⟨⟨_, hp, rfl⟩, h.id_eq _ hp⟩
  · rintro ⟨⟨p, hp, rfl⟩, rfl⟩
    rwa [h.id_eq p hp]

/-- A lookup finds the ids of the records that are as its keys say, in the order of the index. -/
structure Finds (ix : Index) (m : OrderedMap String (List Int)) (is : Element → String → Prop) :
    Prop where
  keys_nodup : m.keys.Nodup
  mem_iff : ∀ k id, id ∈ (m.get? k).getD [] ↔ ∃ e, ix.get? id = some e ∧ is e k
  nonempty : ∀ p ∈ m, p.2 ≠ []
  ordered : ∀ p ∈ m, p.2.Pairwise fun a b => ix.ids.idxOf a ≤ ix.ids.idxOf b

theorem Keyed.finds (h : ix.Keyed) {keys : Element → List String}
    {m : OrderedMap String (List Int)} {is : Element → String → Prop}
    (hm : Grouped keys ix.records m) (hk : ∀ e ∈ ix.records, ∀ k, k ∈ keys e ↔ is e k) :
    ix.Finds m is := by
  refine ⟨hm.keys_nodup, fun k id => ?_, hm.nonempty, ?_⟩
  · rw [hm.mem_iff]
    simp only [h.get?_eq_some_iff]
    constructor
    · rintro ⟨e, he, hid, hke⟩
      exact ⟨e, ⟨he, hid⟩, (hk e he k).mp hke⟩
    · rintro ⟨e, ⟨he, hid⟩, hke⟩
      exact ⟨e, he, hid, (hk e he k).mpr hke⟩
  · have hids := h.map_id
    have ho := hm.ordered (hids ▸ h.nodup)
    rwa [hids] at ho

/-- All parts of an index agree with its records. -/
structure Coherent (ix : Index) : Prop where
  keyed : ix.Keyed
  ancestry : ∀ e ∈ ix.records, e.ancestry.getLast? = some e.typeName
  byType : ix.Finds ix.byType fun e t => e.typeName = t
  byStorey : ix.Finds ix.byStorey fun e s => e.location.storey = some s
  byMaterial : ix.Finds ix.byMaterial fun e m => ∃ x, e.material = some x ∧ Text.lower x.name = m
  byClassification : ix.Finds ix.byClassification fun e k =>
    ∃ c ∈ e.classifications, c.system ++ ":" ++ c.code = k
  /-- Of these lookups no group has an id twice. -/
  once : ∀ m ∈ [ix.byType, ix.byStorey, ix.byMaterial], ∀ p ∈ m, p.2.Sublist ix.ids
  /-- The groups of the types have every id of the index between them, once. -/
  partition : (ix.byType.flatMap (·.2)).Perm ix.ids
  propertySets : ∀ s, s ∈ ix.propertySets ↔ ∃ e ∈ ix.records, s ∈ e.properties.keys
  quantitySets : ∀ s, s ∈ ix.quantitySets ↔ ∃ e ∈ ix.records, s ∈ e.quantities.keys
  classificationSystems : ∀ s, s ∈ ix.classificationSystems ↔
    ∃ e ∈ ix.records, ∃ c ∈ e.classifications, c.system = s

theorem mem_storeyKeys {e : Element} (he : e.location.storey ≠ some "") (s : String) :
    s ∈ e.storeyKeys ↔ e.location.storey = some s := by
  rw [Element.storeyKeys]
  split
  case h_1 hs => simp [hs]
  case h_2 hs => exact absurd hs he
  case h_3 hs => simp [hs, eq_comm]

theorem Tallied.coherent (h : ix.Tallied)
    (ha : ∀ e ∈ ix.records, e.ancestry.getLast? = some e.typeName)
    (hs : ∀ e ∈ ix.records, e.location.storey ≠ some "") : ix.Coherent where
  keyed := h.keyed
  ancestry := ha
  byType := h.keyed.finds h.byType fun e _ t => by simp [eq_comm]
  byStorey := h.keyed.finds h.byStorey fun e he s => mem_storeyKeys (hs e he) s
  byMaterial := h.keyed.finds h.byMaterial fun e _ m => by simp [Element.materialKeys]
  byClassification := h.keyed.finds h.byClassification fun e _ k => by
    simp [Element.classificationKeys]
  once := by
    have hids := h.keyed.map_id
    have htype := h.byType.sublist fun e _ => Nat.le_refl 1
    have hstorey := h.byStorey.sublist fun e _ => by
      rw [Element.storeyKeys]
      split <;> simp
    have hmaterial := h.byMaterial.sublist fun e _ => by
      cases hm : e.material <;> simp [Element.materialKeys, hm]
    rw [hids] at htype hstorey hmaterial
    exact List.forall_mem_cons.mpr ⟨htype,
      List.forall_mem_cons.mpr ⟨hstorey, List.forall_mem_singleton.mpr hmaterial⟩⟩
  partition := h.byType_perm
  propertySets := h.propertySets.mem_iff
  quantitySets := h.quantitySets.mem_iff
  classificationSystems s := by
    rw [h.classificationSystems.mem_iff]
    simp

end Index

section Decoded

open Checked

theorem Decoder.map_keys_nodup {α β : Type} [BEq β] [LawfulBEq β] {key : Decoder β}
    {d : Decoder α} {v : Value} {m : OrderedMap β α} (h : Decoder.map key d v = .ok m) :
    m.keys.Nodup := by
  cases v <;> simp only [Decoder.map, fail, reduceCtorEq] at h
  case map es =>
    obtain ⟨entries, -, rfl⟩ := checked_map_eq_ok.mp h
    exact OrderedMap.nodup_ofList entries

theorem Decoder.keys_nodup_of_optional_map {α β : Type} [BEq β] [LawfulBEq β] {d : Decoder α}
    {key : Decoder β} {fs : Fields} {name : FieldName} {m : OrderedMap β α}
    (h : optional fs name (map key d) [] = .ok m) : m.keys.Nodup := by
  rcases optional_eq_ok.mp h with ⟨-, rfl⟩ | ⟨_, -, hm⟩
  · exact List.nodup_nil
  · exact map_keys_nodup hm

/-- Entities that are read from a document have every id once. -/
theorem EntityGraph.keys_nodup_of_decoder {v : Value} {g : EntityGraph}
    (h : EntityGraph.decoder v = .ok g) : g.entities.keys.Nodup := by
  cases v <;> simp only [EntityGraph.decoder, Decoder.record, fail, reduceCtorEq] at h
  case map fs =>
    obtain ⟨f, _, hf, -, rfl⟩ := seq_eq_ok.mp h
    obtain ⟨es, hes, rfl⟩ := map_eq_ok.mp hf
    obtain ⟨_, -, hm⟩ := Decoder.required_eq_ok.mp hes
    exact Decoder.map_keys_nodup hm

theorem EntityGraph.keys_nodup_of_ofPlain {v : Value} {g : EntityGraph}
    (h : EntityGraph.ofPlain v = .ok g) : g.entities.keys.Nodup := by
  cases v <;> simp only [EntityGraph.ofPlain, throw, throwThe, MonadExceptOf.throw,
    reduceCtorEq] at h
  case map es =>
    split at h
    case h_1 hg =>
      cases h
      exact EntityGraph.keys_nodup_of_decoder hg
    case h_2 => nomatch h

theorem Input.parts_of_decoder {v : Value} {i : Input} (h : Input.decoder v = .ok i) :
    ∃ fs, Decoder.required fs "parse_result" EntityGraph.decoder = .ok i.graph ∧
      Decoder.optional fs "property_sets"
        (Decoder.orNothing (Decoder.map Decoder.integer PropertySet.decoder)) none =
          .ok i.propertySets ∧
      Decoder.optional fs "quantity_sets"
        (Decoder.orNothing (Decoder.map Decoder.integer QuantitySet.decoder)) none =
          .ok i.quantitySets ∧
      Decoder.optional fs "spatial_hierarchy" (Decoder.orNothing Containment.decoder) none =
        .ok i.containment := by
  cases v <;> simp only [Input.decoder, Decoder.record, fail, reduceCtorEq] at h
  case map fs =>
    obtain ⟨f₁, _, h₁, -, rfl⟩ := seq_eq_ok.mp h
    obtain ⟨f₂, _, h₂, -, rfl⟩ := seq_eq_ok.mp h₁
    obtain ⟨f₃, c, h₃, hc, rfl⟩ := seq_eq_ok.mp h₂
    obtain ⟨f₄, _, h₄, -, rfl⟩ := seq_eq_ok.mp h₃
    obtain ⟨f₅, _, h₅, -, rfl⟩ := seq_eq_ok.mp h₄
    obtain ⟨f₆, qs, h₆, hqs, rfl⟩ := seq_eq_ok.mp h₅
    obtain ⟨f₇, ps, h₇, hps, rfl⟩ := seq_eq_ok.mp h₆
    obtain ⟨g, hg, rfl⟩ := map_eq_ok.mp h₇
    exact ⟨fs, hg, hps, hqs, hc⟩

theorem Input.keys_nodup_of_decoder {v : Value} {i : Input} (h : Input.decoder v = .ok i) :
    i.graph.entities.keys.Nodup := by
  obtain ⟨fs, hg, -⟩ := Input.parts_of_decoder h
  obtain ⟨_, -, hd⟩ := Decoder.required_eq_ok.mp hg
  exact EntityGraph.keys_nodup_of_decoder hd

end Decoded

namespace Input

variable {i : Input} {h : Hierarchy}

theorem storey_record_ne_empty (joins : Joins) (id : Int) (e : Entity) :
    (i.record h i.placements joins id e).location.storey ≠ some "" := by
  cases hc : i.containment with
  | none => simp [record, placements, hc, Placements.location, OrderedMap.get?]
  | some c =>
    have hnamed := c.storeyNamed_placements i.graph id
    simpa [record, placements, hc, Containment.StoreyNamed] using hnamed

/-- The index of any input: there is one record for each entity whose ancestry has the class of
products, in the order of the entities, and all parts of the index agree. -/
theorem index_coherent (i : Input) (h : Hierarchy) (hn : i.graph.entities.keys.Nodup) :
    (i.index h).ids = OrderedMap.keys (i.graph.entities.filter fun p =>
        (h.chain (h.resolve p.2.typeName)).contains "IfcProduct") ∧
      (∀ p ∈ i.graph.entities, ∀ e, (i.index h).get? p.1 = some e →
        e.id = p.1 ∧ e.typeName = h.resolve p.2.typeName ∧ e.ancestry = h.chain e.typeName) ∧
      (i.index h).Coherent := by
  have hb := i.index_built h hn
  refine ⟨?_, ?_, hb.tallied.coherent ?_ ?_⟩
  · rw [Index.ids, OrderedMap.keys, hb.elements, List.map_map]
    rfl
  · intro p hp e he
    obtain ⟨hmem, hid⟩ := hb.tallied.keyed.get?_eq_some_iff.mp he
    obtain ⟨q, hq, rfl⟩ := mem_records_index hmem
    -- The id of the record is the key of the entity it comes from.
    have hqp : q = p := List.inj_on_of_nodup_map hn hq hp hid
    subst hqp
    exact ⟨hid, rfl, rfl⟩
  · intro e he
    obtain ⟨p, -, rfl⟩ := mem_records_index he
    exact (h.getLast?_chain _).trans (congrArg some (h.resolve_resolve _))
  · intro e he
    obtain ⟨p, -, rfl⟩ := mem_records_index he
    exact storey_record_ne_empty _ _ _

/-- A wall on a storey that is not among the entities, a door, and a set that is no product. -/
def storeyWall : Input where
  graph := {
    entities := [
      (4, ⟨4, "IFCWALL", .positional []⟩),
      (9, ⟨9, "IfcPropertySet", .positional []⟩),
      (2, ⟨2, "IfcDoor", .positional []⟩)]
    idsByType := [] }
  containment := some { storeyOf := [(4, 30)] }

def wallsAndDoors : Hierarchy where
  parents := [("IfcProduct", none), ("IfcWall", some "IfcProduct"), ("IfcDoor", some "IfcProduct")]

theorem index_coherent_storeyWall :
    storeyWall.graph.entities.keys.Nodup ∧ (storeyWall.index wallsAndDoors).ids = [4, 2] ∧
      4 ∈ ((storeyWall.index wallsAndDoors).byStorey.get? "Storey 30").getD [] := by
  have hn : storeyWall.graph.entities.keys.Nodup := by decide
  obtain ⟨hids, -, hc⟩ := index_coherent storeyWall wallsAndDoors hn
  refine ⟨hn, hids.trans (by decide +kernel), ?_⟩
  exact (hc.byStorey.mem_iff "Storey 30" 4).mpr ⟨_, rfl, by decide +kernel⟩

end Input

end BuildingQuery
