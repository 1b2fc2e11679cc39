import BuildingQuery.Proofs.Condition.Typed
import BuildingQuery.Proofs.Index.JoinedSets
import Mathlib.Tactic.MkIffOfInductiveProp

/-! Records as they are read or built: an element has no set twice, a set no name twice, and every
property a single value. -/

namespace BuildingQuery

open Checked Decoder

/-- No set stands twice in a map of sets, and no name twice in a set. -/
@[mk_iff]
structure SetsOnce {α : Type} (sets : OrderedMap String (OrderedMap String α)) : Prop where
  keys : sets.keys.Nodup
  names : ∀ s ∈ sets, s.2.keys.Nodup

@[mk_iff]
structure Element.WellFormed (e : Element) : Prop where
  properties : SetsOnce e.properties
  quantities : SetsOnce e.quantities
  scalar : ∀ s ∈ e.properties, ∀ p ∈ s.2, p.2.value.isScalar = true

def Index.WellFormed (ix : Index) : Prop := ∀ e ∈ ix.records, e.WellFormed

variable {α : Type}

instance (sets : OrderedMap String (OrderedMap String α)) : Decidable (SetsOnce sets) :=
  decidable_of_iff _ (setsOnce_iff sets).symm

instance (e : Element) : Decidable e.WellFormed :=
  decidable_of_iff _ (Element.wellFormed_iff e).symm

instance (ix : Index) : Decidable ix.WellFormed :=
  inferInstanceAs (Decidable (∀ e ∈ ix.records, e.WellFormed))

section Found

variable {sets : OrderedMap String (OrderedMap String α)} {s : String} {k : String} {a : α}

theorem SetsOnce.memberOf_eq_some (h : SetsOnce sets) :
    memberOf sets s k = some a ↔ ∃ members, (s, members) ∈ sets ∧ (k, a) ∈ members := by
  simp only [memberOf, Option.bind_eq_some_iff, OrderedMap.get?_eq_some_iff h.keys]
  refine exists_congr fun members => and_congr_right fun hs => ?_
  exact OrderedMap.get?_eq_some_iff (h.names _ hs)

theorem Element.property?_of_hasWildcard {e : Element} {set : String}
    (h : Pattern.hasWildcard set = false) (name : String) :
    e.property? set name = memberOf e.properties set name := by
  have hne : (set == "*") = false := by
    rw [beq_eq_false_iff_ne]
    rintro rfl
    exact absurd h (by decide)
  rw [property?, hne, h, memberOf]
  rfl

end Found

section Reading

theorem setsOnce_of_decoder {d : Decoder α} {v : Value}
    {sets : OrderedMap String (OrderedMap String α)} (h : map text (map text d) v = .ok sets) :
    SetsOnce sets where
  keys := map_keys_nodup h
  names := forall_mem_map (fun _ _ hs => map_keys_nodup hs) h

theorem PropertyValue.isScalar_of_decoder {v : Value} {p : PropertyValue}
    (h : PropertyValue.decoder v = .ok p) : p.value.isScalar = true := by
  cases v <;> simp only [PropertyValue.decoder, record, fail, reduceCtorEq] at h
  case map fs =>
    obtain ⟨f, u, hf, -, rfl⟩ := seq_eq_ok.mp h
    obtain ⟨g, v, hg, hv, rfl⟩ := seq_eq_ok.mp hf
    obtain ⟨k, -, rfl⟩ := map_eq_ok.mp hg
    exact of_optional (P := fun v => v.isScalar = true) hv rfl fun _ => scalar_eq_ok

theorem PropertyValue.isScalar_of_map {v : Value} {m : OrderedMap String PropertyValue}
    (h : map text PropertyValue.decoder v = .ok m) : ∀ p ∈ m, p.2.value.isScalar = true :=
  forall_mem_map (fun _ _ => isScalar_of_decoder) h

theorem PropertySet.isScalar_of_decoder {v : Value} {s : PropertySet}
    (h : PropertySet.decoder v = .ok s) : ∀ p ∈ s.properties, p.2.value.isScalar = true := by
  cases v <;> simp only [PropertySet.decoder, record, fail, reduceCtorEq] at h
  case map fs =>
    obtain ⟨f, m, hf, hm, rfl⟩ := seq_eq_ok.mp h
    obtain ⟨name, -, rfl⟩ := map_eq_ok.mp hf
    exact of_optional (P := fun m => ∀ p ∈ m, p.2.value.isScalar = true) hm (by simp)
      fun _ => PropertyValue.isScalar_of_map

/-- A record that is read from a document is well-formed, whatever the document repeats. -/
theorem Element.wellFormed_of_decoder {v : Value} {e : Element} (h : Element.decoder v = .ok e) :
    e.WellFormed := by
  cases v <;> simp only [Element.decoder, record, fail, reduceCtorEq] at h
  case map fs =>
    obtain ⟨f₁, relations, h₁, -, rfl⟩ := seq_eq_ok.mp h
    obtain ⟨f₂, classifications, h₂, -, rfl⟩ := seq_eq_ok.mp h₁
    obtain ⟨f₃, material, h₃, -, rfl⟩ := seq_eq_ok.mp h₂
    obtain ⟨f₄, quantities, h₄, hq, rfl⟩ := seq_eq_ok.mp h₃
    obtain ⟨f₅, properties, h₅, hp, rfl⟩ := seq_eq_ok.mp h₄
    obtain ⟨f₆, location, h₆, -, rfl⟩ := seq_eq_ok.mp h₅
    obtain ⟨f₇, predefinedType, h₇, -, rfl⟩ := seq_eq_ok.mp h₆
    obtain ⟨f₈, objectType, h₈, -, rfl⟩ := seq_eq_ok.mp h₇
    obtain ⟨f₉, tag, h₉, -, rfl⟩ := seq_eq_ok.mp h₈
    obtain ⟨f₁₀, description, h₁₀, -, rfl⟩ := seq_eq_ok.mp h₉
    obtain ⟨f₁₁, name, h₁₁, -, rfl⟩ := seq_eq_ok.mp h₁₀
    obtain ⟨f₁₂, ancestry, h₁₂, -, rfl⟩ := seq_eq_ok.mp h₁₁
    obtain ⟨f₁₃, typeName, h₁₃, -, rfl⟩ := seq_eq_ok.mp h₁₂
    obtain ⟨f₁₄, globalId, h₁₄, -, rfl⟩ := seq_eq_ok.mp h₁₃
    obtain ⟨id, -, rfl⟩ := map_eq_ok.mp h₁₄
    refine ⟨?_, ?_, ?_⟩
    · exact of_optional hp ⟨List.nodup_nil, by simp⟩ fun _ => setsOnce_of_decoder
    · exact of_optional hq ⟨List.nodup_nil, by simp⟩ fun _ => setsOnce_of_decoder
    · exact of_optional (P := fun m => ∀ s ∈ m, ∀ p ∈ s.2, p.2.value.isScalar = true) hp (by simp)
        fun _ => forall_mem_map fun _ _ => PropertyValue.isScalar_of_map

end Reading

section Merging

variable {sets : NamedSets α}

theorem SetsOnce.mergeInto {g : OrderedMap String (OrderedMap String α)} (h : SetsOnce g)
    (name : String) (members : OrderedMap String α) : SetsOnce (mergeInto g name members) := by
  refine ⟨OrderedMap.nodup_put h.keys, fun s hs => ?_⟩
  rcases OrderedMap.mem_put hs with hs | hs
  · exact h.names s hs
  · rw [hs]
    refine OrderedMap.nodup_putAll ?_
    cases hg : g.get? name with
    | none => exact List.nodup_nil
    | some m => exact h.names _ (OrderedMap.mem_of_get? hg)

/-- Merged sets are sets once, even where what is merged repeats a name. -/
theorem setsOnce_merged (sets : NamedSets α) (ds : List Int) : SetsOnce (merged sets ds) :=
  List.foldlRecOn _ _ ⟨List.nodup_nil, by simp⟩ fun _ hg s _ => hg.mergeInto s.1 s.2

theorem forall_mem_mergeInto {P : α → Prop} {g : OrderedMap String (OrderedMap String α)}
    (h : ∀ s ∈ g, ∀ p ∈ s.2, P p.2) (name : String) {members : OrderedMap String α}
    (hm : ∀ p ∈ members, P p.2) : ∀ s ∈ mergeInto g name members, ∀ p ∈ s.2, P p.2 := by
  intro s hs
  rcases OrderedMap.mem_put hs with hs | hs
  · exact h s hs
  · rw [hs]
    refine OrderedMap.forall_mem_putAll ?_ hm
    cases hg : g.get? name with
    | none => simp
    | some m => exact h _ (OrderedMap.mem_of_get? hg)

theorem forall_mem_merged {P : α → Prop} {ds : List Int}
    (h : ∀ d s, sets d = some s → ∀ p ∈ s.2, P p.2) :
    ∀ s ∈ merged sets ds, ∀ p ∈ s.2, P p.2 := by
  refine List.foldlRecOn (motive := fun g : OrderedMap String (OrderedMap String α) =>
    ∀ s ∈ g, ∀ p ∈ s.2, P p.2) _ _ (by simp) fun g hg s hs => forall_mem_mergeInto hg s.1 ?_
  obtain ⟨d, -, hd⟩ := List.mem_filterMap.mp hs
  exact h d s hd

end Merging

namespace Input

variable {i : Input}

/-- The properties in the sets of the input have single values. -/
def ScalarSets (i : Input) : Prop :=
  ∀ s ∈ i.sets.propertySets, ∀ p ∈ s.2.properties, p.2.value.isScalar = true

theorem scalarSets_of_decoder {v : Value} (h : Input.decoder v = .ok i) : i.ScalarSets := by
  obtain ⟨fs, -, hps, -⟩ := parts_of_decoder h
  rcases eq_none_or_of_optional_orNothing hps with hnone | ⟨_, m, hm, hsome⟩
  · simp [ScalarSets, sets, hnone]
  · rw [ScalarSets, sets, hsome]
    exact forall_mem_map (fun _ _ => PropertySet.isScalar_of_decoder) hm

/-- The records of an index that is built are well-formed. -/
theorem wellFormed_index (h : Hierarchy) (hi : i.ScalarSets) : (i.index h).WellFormed := by
  intro e he
  obtain ⟨p, -, rfl⟩ := mem_records_index he
  refine ⟨?_, ?_, ?_⟩
  · rw [record, SetMaps.properties_eq_merged]
    exact setsOnce_merged _ _
  · rw [record, SetMaps.quantities_eq_merged]
    exact setsOnce_merged _ _
  · rw [record, SetMaps.properties_eq_merged]
    refine forall_mem_merged (P := fun p : PropertyValue => p.value.isScalar = true) ?_
    intro d s hs
    obtain ⟨set, hset, rfl⟩ := Option.map_eq_some_iff.mp hs
    exact hi _ (OrderedMap.mem_of_get? hset)

end Input

end BuildingQuery
