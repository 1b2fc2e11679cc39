import BuildingQuery.Proofs.Index.ReadBack
import BuildingQuery.Proofs.Input.Entities

/-! Building an index from plain data, without anything but the entities. It succeeds for a map whose
keys stand for integers and whose values are entities, and no record that is built can be refused. -/

namespace BuildingQuery

open Checked Decoder

section Graphs

variable {es : List (Key × Value)} {g : EntityGraph}

theorem EntityGraph.decoder_entities {v : Value} :
    EntityGraph.decoder (.map [(.str "entities", v)]) = .ok g ↔
      ∃ m, Decoder.map integer Entity.decoder v = .ok m ∧ g = ⟨m, []⟩ := by
  have hentities : OrderedMap.get? [(Key.str "entities", v)] (.str "entities") = some v := rfl
  have htypes : OrderedMap.get? [(Key.str "entities", v)] (.str "entities_by_type") = none := rfl
  constructor
  · intro h
    obtain ⟨_, t, hf, ht, rfl⟩ := seq_eq_ok.mp h
    obtain ⟨m, hm, rfl⟩ := map_eq_ok.mp hf
    obtain ⟨w, hw, hm⟩ := required_coe_eq_ok.mp hm
    obtain rfl := Option.some.inj (hentities.symm.trans hw)
    rcases optional_coe_eq_ok.mp ht with ⟨w, hw, -⟩ | ⟨-, rfl⟩
    · nomatch htypes.symm.trans hw
    · exact ⟨m, hm, rfl⟩
  · rintro ⟨m, hm, rfl⟩
    refine seq_of_ok (map_of_ok (required_coe_eq_ok.mpr ⟨v, hentities, hm⟩)) ?_
    exact optional_coe_eq_ok.mpr (.inr ⟨htypes, rfl⟩)

/-- The document that a map of entities is read as. -/
def entitiesDocument (es : List (Key × Value)) : Value :=
  .map [(.str "entities", .map (es.map fun entry => (entry.1, withKey entry.1 entry.2)))]

theorem EntityGraph.ofPlain_map (es : List (Key × Value)) : EntityGraph.ofPlain (.map es) =
    match EntityGraph.decoder (entitiesDocument es) with
    | .ok g => .ok g
    | .wrong is => .error (.malformed is) := rfl

theorem EntityGraph.decoder_entitiesDocument :
    EntityGraph.decoder (entitiesDocument es) = .ok g ↔
      ∃ ps, List.Forall₂ (fun entry p => EntityEntry entry p.1 p.2) es ps ∧
        g = ⟨OrderedMap.ofList ps, []⟩ := by
  simp only [entityEntry_iff]
  rw [entitiesDocument, decoder_entities]
  constructor
  · rintro ⟨m, hm, rfl⟩
    obtain ⟨ps, hps, rfl⟩ := checked_map_eq_ok.mp hm
    exact ⟨ps, List.forall₂_map_left_iff.mp (entries_eq_ok_iff.mp hps), rfl⟩
  · rintro ⟨ps, hps, rfl⟩
    refine ⟨_, checked_map_eq_ok.mpr ⟨ps, entries_eq_ok_iff.mpr ?_, rfl⟩, rfl⟩
    exact List.forall₂_map_left_iff.mpr hps

theorem EntityGraph.ofPlain_map_eq_ok_iff : EntityGraph.ofPlain (.map es) = .ok g ↔
    ∃ ps, List.Forall₂ (fun entry p => EntityEntry entry p.1 p.2) es ps ∧
      g = ⟨OrderedMap.ofList ps, []⟩ := by
  rw [ofPlain_map, ← decoder_entitiesDocument]
  cases EntityGraph.decoder (entitiesDocument es) <;> simp

theorem EntityGraph.exists_ofPlain_map_iff : (∃ g, EntityGraph.ofPlain (.map es) = .ok g) ↔
    ∀ entry ∈ es, ∃ n e, EntityEntry entry n e := by
  have hiff := @exists_forall₂_iff _ _ (fun entry (p : Int × Entity) => EntityEntry entry p.1 p.2) es
  simp only [Prod.exists] at hiff
  rw [← hiff]
  constructor
  · rintro ⟨g, hg⟩
    obtain ⟨ps, hps, -⟩ := ofPlain_map_eq_ok_iff.mp hg
    exact ⟨ps, hps⟩
  · rintro ⟨ps, hps⟩
    exact ⟨_, ofPlain_map_eq_ok_iff.mpr ⟨ps, hps, rfl⟩⟩

theorem EntityGraph.exists_ofPlain_iff (v : Value) : (∃ g, EntityGraph.ofPlain v = .ok g) ↔
    ∃ es, v = .map es ∧ ∀ entry ∈ es, ∃ n e, EntityEntry entry n e := by
  cases v with
  | map es => simp only [exists_ofPlain_map_iff, Value.map.injEq, exists_eq_left']
  | _ => exact iff_of_false (by rintro ⟨_, ⟨⟩⟩) (by rintro ⟨_, ⟨⟩, _⟩)

/-- Of the entries whose keys stand for the same integer the last counts. -/
theorem EntityGraph.get?_ofPlain_iff (h : EntityGraph.ofPlain (.map es) = .ok g) {n : Int}
    {e : Entity} : g.entities.get? n = some e ↔
      LastAt (fun entry => ¬ entry.1.value.Denotes n) (fun entry => EntityEntry entry n e) es := by
  obtain ⟨ps, hps, rfl⟩ := ofPlain_map_eq_ok_iff.mp h
  rw [OrderedMap.get?_ofList_eq_some_iff]
  refine (lastAt_of_forall₂ hps (fun entry p hp => not_congr ?_) fun entry p hp => ?_).symm
  · exact ⟨hp.key.unique, fun hn => hn ▸ hp.key⟩
  · constructor
    · intro he
      obtain ⟨hn, rfl⟩ := hp.unique he
      exact Prod.ext hn rfl
    · rintro rfl
      exact hp

end Graphs

/-- What is told of plain data that no index is built from. -/
inductive CollectionError.Tells : CollectionError → Value → Prop where
  | nothing : Tells .nothing .null
  | notMap {v : Value} (kind : String) (hnull : v ≠ .null) (hmap : ∀ es, v ≠ .map es) :
      Tells (.notMap kind) v
  | malformed {es : List (Key × Value)} {entry : Key × Value} (hentry : entry ∈ es)
      (hnone : ∀ n e, ¬ EntityEntry entry n e) (is : List Issue) : Tells (.malformed is) (.map es)

theorem Index.ofPlain_eq (v : Value) : Index.ofPlain v =
    (fun g => ({ graph := g } : Input).index .products) <$> EntityGraph.ofPlain v := by
  rw [Index.ofPlain, map_eq_pure_bind]

theorem EntityGraph.tells_of_ofPlain {v : Value} {err : CollectionError}
    (h : EntityGraph.ofPlain v = .error err) : err.Tells v := by
  cases v with
  | null =>
    obtain rfl := Except.error.inj h
    exact .nothing
  | map es =>
    have hnone : ¬ ∀ entry ∈ es, ∃ n e, EntityEntry entry n e := by
      rw [← exists_ofPlain_map_iff, h]
      rintro ⟨_, ⟨⟩⟩
    push Not at hnone
    obtain ⟨entry, hentry, hnone⟩ := hnone
    rw [ofPlain_map] at h
    split at h
    case h_1 => nomatch h
    case h_2 is _ =>
      obtain rfl := Except.error.inj h
      exact .malformed hentry hnone is
  | _ =>
    obtain rfl := Except.error.inj h
    exact .notMap _ (by rintro ⟨⟩) (by rintro _ ⟨⟩)

/-- An index is built from plain data exactly if the data are a map whose keys stand for integers and
whose values are entities, and for all other data it is told what is wrong with them. The index is
that of the entities under the integers of their keys, where of several keys for one integer the last
counts. Every record of it keeps to the format of records, so that none is refused on the way. -/
theorem Index.ofPlain_total (v : Value) :
    ((∃ ix, Index.ofPlain v = .ok ix) ↔
      ∃ es, v = .map es ∧ ∀ entry ∈ es, ∃ n e, EntityEntry entry n e) ∧
    (∀ err, Index.ofPlain v = .error err → err.Tells v) ∧
    ∀ es ix, v = .map es → Index.ofPlain v = .ok ix → ∃ g : EntityGraph,
      ix = ({ graph := g } : Input).index .products ∧ g.entities.keys.Nodup ∧
      (∀ n e, g.entities.get? n = some e ↔ LastAt (fun entry => ¬ entry.1.value.Denotes n)
        (fun entry => EntityEntry entry n e) es) ∧
      ∀ r ∈ ix.records, Element.decoder r.facet.toValue = .ok r := by
  refine ⟨?_, fun err h => ?_, ?_⟩
  · rw [← EntityGraph.exists_ofPlain_iff, Index.ofPlain_eq]
    simp only [map_eq_ok_iff]
    exact ⟨fun ⟨_, g, hg, _⟩ => ⟨g, hg⟩, fun ⟨g, hg⟩ => ⟨_, g, hg, rfl⟩⟩
  · rw [Index.ofPlain_eq, map_eq_error_iff] at h
    exact EntityGraph.tells_of_ofPlain h
  · rintro es ix rfl h
    rw [Index.ofPlain_eq, map_eq_ok_iff] at h
    obtain ⟨g, hg, rfl⟩ := h
    have hscalar : ({ graph := g } : Input).ScalarSets := by simp [Input.ScalarSets, Input.sets]
    refine ⟨g, rfl, EntityGraph.keys_nodup_of_ofPlain hg, fun n e => EntityGraph.get?_ofPlain_iff hg, ?_⟩
    exact fun r hr => Element.decoder_facet (Input.wellFormed_index _ hscalar r hr)

/-- Two of the keys stand for four, and the entity under the third brings another id. -/
def fourTwice : List (Key × Value) := [
  (.int 4, .record [("type", .str "IfcWall")]),
  (.str "7", .record [("express_id", .bool true), ("type", .str "IfcSlab"), ("attributes", .list [])]),
  (.str " +0_4.0", .record [("type", .str "IfcDoor"), ("attributes", .record [])])]

theorem Index.ofPlain_total_fourTwice :
    (∃ ix, ∃ g : EntityGraph, Index.ofPlain (.map fourTwice) = .ok ix ∧
      ix = ({ graph := g } : Input).index .products ∧
      g.entities.get? 4 = some ⟨4, "IfcDoor", .byName []⟩ ∧
      g.entities.get? 7 = some ⟨1, "IfcSlab", .positional []⟩) ∧
    ∃ err, Index.ofPlain (.str "not a graph") = .error err ∧ err.Tells (.str "not a graph") := by
  have hwall : EntityEntry (.int 4, .record [("type", .str "IfcWall")]) 4
      ⟨4, "IfcWall", .positional []⟩ := entityEntry_iff.mpr ⟨rfl, rfl⟩
  have hslab : EntityEntry (.str "7", .record [("express_id", .bool true), ("type", .str "IfcSlab"),
      ("attributes", .list [])]) 7 ⟨1, "IfcSlab", .positional []⟩ := entityEntry_iff.mpr ⟨rfl, rfl⟩
  have hdoor : EntityEntry (.str " +0_4.0", .record [("type", .str "IfcDoor"),
      ("attributes", .record [])]) 4 ⟨4, "IfcDoor", .byName []⟩ := entityEntry_iff.mpr ⟨rfl, rfl⟩
  have hall : ∀ entry ∈ fourTwice, ∃ n e, EntityEntry entry n e :=
    List.forall_mem_cons.mpr ⟨⟨_, _, hwall⟩, List.forall_mem_cons.mpr ⟨⟨_, _, hslab⟩,
      List.forall_mem_singleton.mpr ⟨_, _, hdoor⟩⟩⟩
  obtain ⟨hiff, -, hbuilt⟩ := ofPlain_total (.map fourTwice)
  obtain ⟨ix, hix⟩ := hiff.mpr ⟨_, rfl, hall⟩
  obtain ⟨g, hg, -, hget, -⟩ := hbuilt _ ix rfl hix
  have hother : ¬ (Key.str " +0_4.0").value.Denotes 7 := fun h => by
    nomatch hdoor.key.unique h
  refine ⟨⟨ix, g, hix, hg, ?_, ?_⟩, _, rfl, (ofPlain_total (.str "not a graph")).2.1 _ rfl⟩
  · exact (hget 4 _).mpr ⟨[_, _], _, [], rfl, hdoor, by simp⟩
  · exact (hget 7 _).mpr ⟨[_], _, [_], rfl, hslab, List.forall_mem_singleton.mpr hother⟩

end BuildingQuery
