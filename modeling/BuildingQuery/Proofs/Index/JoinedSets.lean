import BuildingQuery.Proofs.First
import BuildingQuery.Proofs.Index.Coherence
import BuildingQuery.Proofs.Index.Joins

/-! The properties and quantities of an element: the sets that relationships give it are merged by
their names, and what comes last counts. -/

namespace BuildingQuery

/-- The relationship gives the element the set it relates. -/
def Relationship.Defines (r : Relationship) (id : Int) : Prop :=
  Text.upper r.typeName = "IFCRELDEFINESBYPROPERTIES" ∧ id ∈ r.related

theorem Join.ofType?_eq_definition_iff {t : String} :
    Join.ofType? t = some .definition ↔ Text.upper t = "IFCRELDEFINESBYPROPERTIES" := by
  rw [ofType?]
  split <;> simp_all

/-- Sets by the ids of their definitions, each with its name and its members. -/
abbrev NamedSets (α : Type) := Int → Option (String × OrderedMap String α)

namespace SetMaps

def namedProperties (m : SetMaps) : NamedSets PropertyValue := fun d =>
  (m.propertySets.get? d).map fun s => (s.name, s.properties)

/-- A definition that is a property set is no quantity set. -/
def namedQuantities (m : SetMaps) : NamedSets Float := fun d =>
  if m.propertySets.contains d then none
  else (m.quantitySets.get? d).map fun s => (s.name, s.quantities)

end SetMaps

/-- What stands in groups under the name of a set and that of a member. -/
def memberOf {α : Type} (groups : OrderedMap String (OrderedMap String α)) (set name : String) :
    Option α := (groups.get? set).bind (OrderedMap.get? · name)

variable {α : Type} {sets : NamedSets α} {rs : List Relationship} {id : Int}

/-- The relationship gives the element a set of that name, and in it the member with that value. -/
def Gives (sets : NamedSets α) (id : Int) (set name : String) (a : α) (r : Relationship) : Prop :=
  r.Defines id ∧ ∃ members, sets r.relating = some (set, members) ∧ members.get? name = some a

/-- The groups are those of the sets that relationships give an element. -/
structure JoinedBy (sets : NamedSets α) (rs : List Relationship) (id : Int)
    (groups : OrderedMap String (OrderedMap String α)) : Prop where
  mem_keys_iff : ∀ set, set ∈ groups.keys ↔
    ∃ r ∈ rs, r.Defines id ∧ ∃ members, sets r.relating = some (set, members)
  isSome_iff : ∀ set name, (memberOf groups set name).isSome ↔
    ∃ r ∈ rs, ∃ a, Gives sets id set name a r
  /-- A value is that of the last relationship that gives any. -/
  eq_some_iff : ∀ set name a, memberOf groups set name = some a ↔
    LastAt (fun r => ∀ b, ¬ Gives sets id set name b r) (Gives sets id set name a) rs

section Merging

/-- The sets of definitions, merged by their names. -/
def merged (sets : NamedSets α) (ds : List Int) : OrderedMap String (OrderedMap String α) :=
  (ds.filterMap sets).foldl (fun g s => mergeInto g s.1 s.2) []

/-- What a definition has under the name of a set and that of a member. -/
def given (sets : NamedSets α) (set name : String) (d : Int) : Option α :=
  (sets d).bind fun s => if s.1 = set then s.2.get? name else none

theorem given_eq_some_iff {set name : String} {d : Int} {a : α} :
    given sets set name d = some a ↔
      ∃ members, sets d = some (set, members) ∧ members.get? name = some a := by
  simp only [given, Option.bind_eq_some_iff, Prod.exists]
  constructor
  · rintro ⟨s, members, hs, h⟩
    split at h
    case isTrue hset => exact ⟨members, hset ▸ hs, h⟩
    case isFalse => nomatch h
  · rintro ⟨members, hs, h⟩
    exact ⟨set, members, hs, by rwa [if_pos rfl]⟩

theorem memberOf_mergeInto (g : OrderedMap String (OrderedMap String α))
    {members : OrderedMap String α} (hm : members.keys.Nodup) (s set name : String) :
    memberOf (mergeInto g s members) set name =
      (if s = set then members.get? name else none).or (memberOf g set name) := by
  by_cases hs : s = set
  · subst hs
    rw [memberOf, mergeInto, OrderedMap.get?_put_self, Option.bind_some,
      OrderedMap.get?_putAll _ hm, if_pos rfl, memberOf]
    cases g.get? s <;> rfl
  · rw [memberOf, mergeInto, OrderedMap.get?_put_of_ne _ _ (Ne.symm hs), if_neg hs, Option.none_or,
      memberOf]

/-- Of several definitions the last counts that has the member. -/
theorem memberOf_merged (hs : ∀ d s, sets d = some s → s.2.keys.Nodup) (ds : List Int)
    (set name : String) :
    memberOf (merged sets ds) set name = (ds.filterMap (given sets set name)).getLast? := by
  induction ds using List.reverseRecOn with
  | nil => rfl
  | append_singleton ds d ih =>
    rw [List.filterMap_append, List.getLast?_append, ← ih]
    cases hd : sets d with
    | none => simp [merged, given, hd]
    | some s =>
      have hmerge : merged sets (ds ++ [d]) = mergeInto (merged sets ds) s.1 s.2 := by
        simp [merged, hd]
      have hgiven : [d].filterMap (given sets set name) =
          (if s.1 = set then s.2.get? name else none).toList := by
        simp only [given, hd, Option.bind_some, List.filterMap_cons, List.filterMap_nil]
        cases (if s.1 = set then s.2.get? name else none) <;> rfl
      rw [hmerge, hgiven, memberOf_mergeInto _ (hs d s hd)]
      cases (if s.1 = set then s.2.get? name else none) <;> rfl

theorem mem_keys_merged {ds : List Int} {set : String} :
    set ∈ (merged sets ds).keys ↔ ∃ d ∈ ds, ∃ members, sets d = some (set, members) := by
  have hkeys := mem_keys_merge (Prod.fst (α := String)) Prod.snd (ds.filterMap sets) [] (s := set)
  rw [merged, hkeys]
  simp only [OrderedMap.keys, List.map_nil, List.not_mem_nil, false_or, List.mem_map,
    List.mem_filterMap]
  constructor
  · rintro ⟨⟨_, members⟩, ⟨d, hd, hset⟩, rfl⟩
    exact ⟨d, hd, members, hset⟩
  · rintro ⟨d, hd, members, hset⟩
    exact ⟨(set, members), ⟨d, hd, hset⟩, rfl⟩

theorem SetMaps.properties_eq_merged (m : SetMaps) (ds : List Int) :
    m.properties ds = merged m.namedProperties ds := by
  have hsets : ds.filterMap m.namedProperties =
      (ds.filterMap m.propertySets.get?).map fun s => (s.name, s.properties) := by
    rw [List.map_filterMap]
    rfl
  rw [properties, merged, hsets, List.foldl_map]

theorem SetMaps.quantities_eq_merged (m : SetMaps) (ds : List Int) :
    m.quantities ds = merged m.namedQuantities ds := by
  have hsets : ds.filterMap m.namedQuantities =
      ((ds.filter fun d => !m.propertySets.contains d).filterMap m.quantitySets.get?).map
        fun s => (s.name, s.quantities) := by
    rw [List.filterMap_filter, List.map_filterMap]
    congr 1
    funext d
    rw [namedQuantities]
    cases m.propertySets.contains d <;> rfl
  rw [quantities, merged, hsets, List.foldl_map]

end Merging

theorem mem_relatingTo_pairs {d : Int} :
    d ∈ relatingTo (Join.definition.pairs rs) id ↔ ∃ r ∈ rs, r.Defines id ∧ r.relating = d := by
  rw [mem_relatingTo, Join.mem_pairs]
  simp only [Join.ofType?_eq_definition_iff, Relationship.Defines]
  constructor
  · rintro ⟨r, hr, ht, hd, hid⟩
    exact ⟨r, hr, ⟨ht, hid⟩, hd⟩
  · rintro ⟨r, hr, ⟨ht, hid⟩, hd⟩
    exact ⟨r, hr, ht, hd, hid⟩

/-- The last value among the definitions of an element is the one from the last relationship that
gives any; that a relationship names an element twice makes no difference. -/
theorem getLast?_filterMap_relatingTo {f : Int → Option α} {a : α} :
    ((relatingTo (Join.definition.pairs rs) id).filterMap f).getLast? = some a ↔
      LastAt (fun r => ∀ b, ¬ (r.Defines id ∧ f r.relating = some b))
        (fun r => r.Defines id ∧ f r.relating = some a) rs := by
  induction rs using List.reverseRecOn with
  | nil => simpa [relatingTo, Join.pairs] using not_lastAt_nil
  | append_singleton rs r ih =>
    rw [lastAt_append_singleton, ← ih, Join.pairs_append_singleton]
    by_cases hdef : r.Defines id
    · have hcount : r.related.count id ≠ 0 := by simpa [List.count_eq_zero] using hdef.2
      rw [if_pos (Join.ofType?_eq_definition_iff.mpr hdef.1), relatingTo_append, relatingTo_pairs,
        List.filterMap_append, List.getLast?_append]
      cases hf : f r.relating with
      | none => simp [List.filterMap_replicate_of_none hf, hdef]
      | some b => simp [List.filterMap_replicate_of_some hf, List.getLast?_replicate, hcount, hdef]
    · have hsame : relatingTo (if Join.ofType? r.typeName = some .definition then
          Join.definition.pairs rs ++ r.pairs else Join.definition.pairs rs) id =
            relatingTo (Join.definition.pairs rs) id := by
        split
        case isFalse => rfl
        case isTrue ht =>
          have hid : r.related.count id = 0 := List.count_eq_zero.mpr fun hid =>
            hdef ⟨Join.ofType?_eq_definition_iff.mp ht, hid⟩
          rw [relatingTo_append, relatingTo_pairs, hid, List.replicate_zero, List.append_nil]
      rw [hsame]
      simp [hdef]

theorem joinedBy_merged (hs : ∀ d s, sets d = some s → s.2.keys.Nodup)
    (rs : List Relationship) (id : Int) :
    JoinedBy sets rs id (merged sets ((Joins.of rs).definitionsOf id)) := by
  rw [Joins.definitionsOf_of]
  refine ⟨fun set => ?_, fun set name => ?_, fun set name a => ?_⟩
  · simp only [mem_keys_merged, mem_relatingTo_pairs]
    constructor
    · rintro ⟨_, ⟨r, hr, hdef, rfl⟩, hset⟩
      exact ⟨r, hr, hdef, hset⟩
    · rintro ⟨r, hr, hdef, hset⟩
      exact ⟨r.relating, ⟨r, hr, hdef, rfl⟩, hset⟩
  · rw [memberOf_merged hs, List.getLast?_isSome]
    constructor
    · intro hne
      obtain ⟨a, ha⟩ := List.exists_mem_of_ne_nil _ hne
      obtain ⟨d, hd, hgiven⟩ := List.mem_filterMap.mp ha
      obtain ⟨r, hr, hdef, rfl⟩ := mem_relatingTo_pairs.mp hd
      exact ⟨r, hr, a, hdef, given_eq_some_iff.mp hgiven⟩
    · rintro ⟨r, hr, a, hdef, hgives⟩
      have hd : r.relating ∈ relatingTo (Join.definition.pairs rs) id :=
        mem_relatingTo_pairs.mpr ⟨r, hr, hdef, rfl⟩
      exact List.ne_nil_of_mem (List.mem_filterMap.mpr ⟨_, hd, given_eq_some_iff.mpr hgives⟩)
  · rw [memberOf_merged hs, getLast?_filterMap_relatingTo]
    simp only [given_eq_some_iff]
    exact Iff.rfl

section Decoded

open Checked

theorem PropertySet.keys_nodup_of_decoder {v : Value} {s : PropertySet}
    (h : PropertySet.decoder v = .ok s) : s.properties.keys.Nodup := by
  cases v <;> simp only [PropertySet.decoder, Decoder.record, fail, reduceCtorEq] at h
  case map fs =>
    obtain ⟨_, m, hf, hm, rfl⟩ := seq_eq_ok.mp h
    obtain ⟨name, -, rfl⟩ := map_eq_ok.mp hf
    exact Decoder.keys_nodup_of_optional_map hm

theorem QuantitySet.keys_nodup_of_decoder {v : Value} {s : QuantitySet}
    (h : QuantitySet.decoder v = .ok s) : s.quantities.keys.Nodup := by
  cases v <;> simp only [QuantitySet.decoder, Decoder.record, fail, reduceCtorEq] at h
  case map fs =>
    obtain ⟨_, m, hf, hm, rfl⟩ := seq_eq_ok.mp h
    obtain ⟨name, -, rfl⟩ := map_eq_ok.mp hf
    exact Decoder.keys_nodup_of_optional_map hm

end Decoded

namespace Input

/-- No map of the input that sets are read from has a key twice. -/
structure KeysOnce (i : Input) : Prop where
  entities : i.graph.entities.keys.Nodup
  properties : ∀ p ∈ i.sets.propertySets, p.2.properties.keys.Nodup
  quantities : ∀ p ∈ i.sets.quantitySets, p.2.quantities.keys.Nodup

variable {i : Input}

theorem KeysOnce.namedProperties (hi : i.KeysOnce) (d : Int)
    (s : String × OrderedMap String PropertyValue) (hs : i.sets.namedProperties d = some s) :
    s.2.keys.Nodup := by
  obtain ⟨set, hset, rfl⟩ := Option.map_eq_some_iff.mp hs
  exact hi.properties _ (OrderedMap.mem_of_get? hset)

theorem KeysOnce.namedQuantities (hi : i.KeysOnce) (d : Int)
    (s : String × OrderedMap String Float) (hs : i.sets.namedQuantities d = some s) :
    s.2.keys.Nodup := by
  rw [SetMaps.namedQuantities] at hs
  split at hs
  case isTrue => nomatch hs
  case isFalse =>
    obtain ⟨set, hset, rfl⟩ := Option.map_eq_some_iff.mp hs
    exact hi.quantities _ (OrderedMap.mem_of_get? hset)

theorem keysOnce_of_decoder {v : Value} (h : Input.decoder v = .ok i) : i.KeysOnce := by
  obtain ⟨fs, -, hps, hqs, -⟩ := parts_of_decoder h
  refine ⟨keys_nodup_of_decoder h, ?_, ?_⟩
  · rcases Decoder.eq_none_or_of_optional_orNothing hps with hnone | ⟨_, m, hm, hsome⟩
    · simp [sets, hnone]
    · rw [sets, hsome]
      exact Decoder.forall_mem_map (fun _ _ => PropertySet.keys_nodup_of_decoder) hm
  · rcases Decoder.eq_none_or_of_optional_orNothing hqs with hnone | ⟨_, m, hm, hsome⟩
    · simp [sets, hnone]
    · rw [sets, hsome]
      exact Decoder.forall_mem_map (fun _ _ => QuantitySet.keys_nodup_of_decoder) hm

/-- An element has the sets that relationships give it, under their names and with the values that
came last; a definition in both maps gives properties only. -/
theorem sets_joined (i : Input) (h : Hierarchy) (hi : i.KeysOnce) :
    ∀ e ∈ (i.index h).records,
      JoinedBy i.sets.namedProperties (i.relationships.getD []) e.id e.properties ∧
        JoinedBy i.sets.namedQuantities (i.relationships.getD []) e.id e.quantities := by
  intro e he
  obtain ⟨p, -, rfl⟩ := mem_records_index he
  constructor
  · have hp := joinedBy_merged hi.namedProperties (i.relationships.getD []) p.1
    rwa [← SetMaps.properties_eq_merged] at hp
  · have hq := joinedBy_merged hi.namedQuantities (i.relationships.getD []) p.1
    rwa [← SetMaps.quantities_eq_merged] at hq

/-- Sets of one name, repeated relationships, a definition in both maps and one in neither. -/
def sharedNames : Input where
  graph := {
    entities := [
      (4, ⟨4, "IfcWall", .positional []⟩),
      (2, ⟨2, "IfcDoor", .positional []⟩)]
    idsByType := [] }
  propertySets := some [
    (21, ⟨"Pset_Common", [
      ("Rating", ⟨.text, .str "F30", none⟩),
      ("Zone", ⟨.text, .str "A", none⟩)]⟩),
    (22, ⟨"Pset_Common", [("Rating", ⟨.text, .str "F60", none⟩)]⟩),
    (23, ⟨"Pset_Other", []⟩)]
  quantitySets := some [
    (23, ⟨"Pset_Other", [("Width", 2)]⟩),
    (24, ⟨"Qto_Base", [("Width", 2)]⟩)]
  relationships := some [
    ⟨"IfcRelDefinesByProperties", 22, [4, 2]⟩,
    ⟨"IfcRelDefinesByProperties", 21, [4, 4]⟩,
    ⟨"IFCRELDEFINESBYPROPERTIES", 22, [4]⟩,
    ⟨"IfcRelDefinesByProperties", 23, [4]⟩,
    ⟨"IfcRelDefinesByProperties", 24, [2]⟩,
    ⟨"IfcRelDefinesByProperties", 99, [4]⟩]

theorem sets_joined_sharedNames :
    sharedNames.KeysOnce ∧ ∃ e ∈ (sharedNames.index wallsAndDoors).records, e.id = 4 ∧
      memberOf e.properties "Pset_Common" "Rating" = some ⟨.text, .str "F60", none⟩ ∧
      (memberOf e.properties "Pset_Common" "Zone").isSome ∧ "Pset_Other" ∉ e.quantities.keys := by
  have hk : sharedNames.KeysOnce := ⟨by decide, by decide, by decide⟩
  have hmem : ((sharedNames.index wallsAndDoors).records.map (·.id)) = [4, 2] := by decide +kernel
  obtain ⟨e, he, hid⟩ : ∃ e ∈ (sharedNames.index wallsAndDoors).records, e.id = 4 :=
    List.mem_map.mp (hmem ▸ List.mem_cons_self)
  obtain ⟨hp, hq⟩ := sets_joined sharedNames wallsAndDoors hk e he
  rw [hid] at hp hq
  refine ⟨hk, e, he, hid, ?_, ?_, ?_⟩
  · refine (hp.eq_some_iff _ _ _).mpr ⟨(sharedNames.relationships.getD []).take 2, _,
      (sharedNames.relationships.getD []).drop 3, rfl, ?_, ?_⟩
    · exact ⟨⟨by decide +kernel, by decide⟩, _, rfl, rfl⟩
    · intro r hr
      -- No later relationship gives the element a set of that name.
      have hlater : ∀ r ∈ (sharedNames.relationships.getD []).drop 3, 4 ∈ r.related →
          (sharedNames.sets.namedProperties r.relating).map (·.1) ≠ some "Pset_Common" := by decide
      rintro _ ⟨⟨-, hrel⟩, members, hset, -⟩
      exact hlater r hr hrel (by rw [hset]; rfl)
  · exact (hp.isSome_iff _ _).mpr ⟨⟨"IfcRelDefinesByProperties", 21, [4, 4]⟩,
      List.mem_cons_of_mem _ List.mem_cons_self, _, ⟨by decide +kernel, by decide⟩, _, rfl, rfl⟩
  · rw [hq.mem_keys_iff]
    rintro ⟨r, hr, ⟨-, hrel⟩, members, hset⟩
    have hnone : ∀ r ∈ sharedNames.relationships.getD [], 4 ∈ r.related →
        (sharedNames.sets.namedQuantities r.relating).isSome = false := by decide
    simpa [hset] using hnone r hr hrel

end Input

end BuildingQuery
