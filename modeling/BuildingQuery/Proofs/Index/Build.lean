import BuildingQuery.Index.Build
import BuildingQuery.Proofs.Hierarchy
import BuildingQuery.Proofs.Index.Groups
import BuildingQuery.Proofs.Index.Keys

/-! Building an index entity by entity. After every step the records are those of the products seen
so far, and every lookup is what the records say. -/

namespace BuildingQuery

theorem EntityGraph.containerName_ne_empty (g : EntityGraph) (kind : String) (id : Int) :
    g.containerName kind id ≠ "" := by
  rw [containerName]
  split
  · simp [String.append_eq_empty_iff]
  · simp [String.append_eq_empty_iff]
  · assumption

section Names

variable {α : Type}

theorem addNames_cons (known : List String) (n : String) (ns : List String) :
    Index.addNames known (n :: ns) =
      Index.addNames (if known.contains n then known else known ++ [n]) ns := rfl

theorem mem_addNames {known names : List String} {s : String} :
    s ∈ Index.addNames known names ↔ s ∈ known ∨ s ∈ names := by
  induction names generalizing known with
  | nil => simp [Index.addNames]
  | cons n ns ih =>
    rw [addNames_cons, ih]
    split
    case isTrue hn =>
      have hs : s = n → s ∈ known := by
        rintro rfl
        simpa using hn
      simp only [List.mem_cons]
      tauto
    case isFalse => simp [or_assoc]

theorem nodup_addNames {known names : List String} (h : known.Nodup) :
    (Index.addNames known names).Nodup := by
  induction names generalizing known with
  | nil => exact h
  | cons n ns ih =>
    rw [addNames_cons]
    refine ih ?_
    split
    case isTrue => exact h
    case isFalse hn =>
      have hd : n ∉ known := by simpa using hn
      exact h.append (by simp) (by simpa using hd)

theorem mem_keys_merge {σ : Type} (name : σ → String) (members : σ → OrderedMap String α)
    (sets : List σ) (groups : OrderedMap String (OrderedMap String α)) {s : String} :
    s ∈ (sets.foldl (fun g t => mergeInto g (name t) (members t)) groups).keys ↔
      s ∈ groups.keys ∨ s ∈ sets.map name := by
  induction sets generalizing groups with
  | nil => simp
  | cons t ts ih =>
    rw [List.foldl_cons, ih, mergeInto, OrderedMap.mem_keys_put, List.map_cons, List.mem_cons,
      or_assoc]

theorem SetMaps.mem_keys_properties (m : SetMaps) (definitions : List Int) {s : String} :
    s ∈ (m.properties definitions).keys ↔ s ∈ m.propertyNames definitions := by
  rw [properties, mem_keys_merge, propertyNames]
  simp [OrderedMap.keys]

theorem SetMaps.mem_keys_quantities (m : SetMaps) (definitions : List Int) {s : String} :
    s ∈ (m.quantities definitions).keys ↔ s ∈ m.quantityNames definitions := by
  rw [quantities, mem_keys_merge, quantityNames]
  simp [OrderedMap.keys]

end Names

/-- The names are those that some record has, each of them once. -/
structure Collected (names : Element → List String) (es : List Element) (found : List String) :
    Prop where
  nodup : found.Nodup
  mem_iff : ∀ s, s ∈ found ↔ ∃ e ∈ es, s ∈ names e

theorem Collected.addNames {names : Element → List String} {es : List Element}
    {found more : List String} {e : Element} (h : Collected names es found)
    (hm : ∀ s, s ∈ names e ↔ s ∈ more) :
    Collected names (es ++ [e]) (Index.addNames found more) := by
  refine ⟨nodup_addNames h.nodup, fun s => ?_⟩
  rw [mem_addNames, h.mem_iff, ← hm]
  simp [or_and_right, exists_or]

namespace Index

variable {ix : Index} {e : Element} {ps qs : List String}

theorem elements_add (h : e.id ∉ ix.ids) :
    (ix.add e ps qs).elements = ix.elements ++ [(e.id, e)] := OrderedMap.put_of_not_mem h

theorem records_add (h : e.id ∉ ix.ids) : (ix.add e ps qs).records = ix.records ++ [e] := by
  simp [records, OrderedMap.values, elements_add h]

theorem ids_add (h : e.id ∉ ix.ids) : (ix.add e ps qs).ids = ix.ids ++ [e.id] := by
  simp [ids, OrderedMap.keys, elements_add h]

structure Tallied (ix : Index) : Prop where
  keyed : ix.Keyed
  byType_eq : ix.byType = groupIds (fun e => [e.typeName]) ix.records
  byStorey_eq : ix.byStorey = groupIds Element.storeyKeys ix.records
  byMaterial_eq : ix.byMaterial = groupIds Element.materialKeys ix.records
  byClassification_eq : ix.byClassification = groupIds Element.classificationKeys ix.records
  /-- The groups of all types together are the ids of the index. -/
  byType_perm : (ix.byType.flatMap (·.2)).Perm ix.ids
  propertySets : Collected (fun e => e.properties.keys) ix.records ix.propertySets
  quantitySets : Collected (fun e => e.quantities.keys) ix.records ix.quantitySets
  classificationSystems :
    Collected (fun e => e.classifications.map (·.system)) ix.records ix.classificationSystems

theorem tallied_empty (h : Hierarchy) : (empty h).Tallied where
  keyed := ⟨List.nodup_nil, by simp [empty]⟩
  byType_eq := rfl
  byStorey_eq := rfl
  byMaterial_eq := rfl
  byClassification_eq := rfl
  byType_perm := .nil
  propertySets := ⟨List.nodup_nil, by simp [empty, records, OrderedMap.values]⟩
  quantitySets := ⟨List.nodup_nil, by simp [empty, records, OrderedMap.values]⟩
  classificationSystems := ⟨List.nodup_nil, by simp [empty, records, OrderedMap.values]⟩

theorem Tallied.add (h : ix.Tallied) (hid : e.id ∉ ix.ids)
    (hp : ∀ s, s ∈ e.properties.keys ↔ s ∈ ps) (hq : ∀ s, s ∈ e.quantities.keys ↔ s ∈ qs) :
    (ix.add e ps qs).Tallied := by
  refine ⟨⟨?_, ?_⟩, ?_, ?_, ?_, ?_, ?_, ?_, ?_, ?_⟩
  case refine_1 =>
    rw [ids_add hid]
    exact h.keyed.nodup.append (by simp) (by simpa using hid)
  case refine_2 =>
    rw [elements_add hid]
    intro p hp
    rcases List.mem_append.mp hp with hp | hp
    · exact h.keyed.id_eq p hp
    · rw [List.mem_singleton.mp hp]
  case refine_7 =>
    rw [ids_add hid]
    exact (OrderedMap.flatMap_push_perm _ _ _).trans (h.byType_perm.append_right _)
  all_goals rw [records_add hid]
  case refine_3 =>
    rw [groupIds_concat, ← h.byType_eq]
    rfl
  case refine_4 =>
    rw [groupIds_concat, ← h.byStorey_eq]
    rfl
  case refine_5 =>
    rw [groupIds_concat, ← h.byMaterial_eq]
    rfl
  case refine_6 =>
    rw [groupIds_concat, ← h.byClassification_eq]
    rfl
  case refine_8 => exact h.propertySets.addNames hp
  case refine_9 => exact h.quantitySets.addNames hq
  case refine_10 => exact h.classificationSystems.addNames fun s => Iff.rfl

theorem Tallied.byType (h : ix.Tallied) : Grouped (fun e => [e.typeName]) ix.records ix.byType :=
  h.byType_eq ▸ groupIds_grouped _ _

theorem Tallied.byStorey (h : ix.Tallied) : Grouped Element.storeyKeys ix.records ix.byStorey :=
  h.byStorey_eq ▸ groupIds_grouped _ _

theorem Tallied.byMaterial (h : ix.Tallied) :
    Grouped Element.materialKeys ix.records ix.byMaterial :=
  h.byMaterial_eq ▸ groupIds_grouped _ _

theorem Tallied.byClassification (h : ix.Tallied) :
    Grouped Element.classificationKeys ix.records ix.byClassification :=
  h.byClassification_eq ▸ groupIds_grouped _ _

end Index

namespace Input

variable {i : Input} {h : Hierarchy} {places : Placements} {joins : Joins}

/-- The index is what the entities seen so far lead to. -/
structure Built (i : Input) (h : Hierarchy) (places : Placements) (joins : Joins)
    (seen : List (Int × Entity)) (ix : Index) : Prop where
  elements : ix.elements =
    (seen.filter fun p => isProduct h p.2).map fun p => (p.1, i.record h places joins p.1 p.2)
  hierarchy : ix.hierarchy = h
  tallied : ix.Tallied

theorem Built.ids_subset {seen : List (Int × Entity)} {ix : Index}
    (hb : i.Built h places joins seen ix) {id : Int} (hid : id ∈ ix.ids) :
    id ∈ OrderedMap.keys seen := by
  rw [Index.ids, OrderedMap.keys, hb.elements] at hid
  simp only [List.map_map, List.mem_map, List.mem_filter, Function.comp] at hid
  obtain ⟨p, ⟨hp, -⟩, rfl⟩ := hid
  exact List.mem_map.mpr ⟨p, hp, rfl⟩

/-- One step takes in one entity. -/
theorem Built.step {seen : List (Int × Entity)} {ix : Index} (hb : i.Built h places joins seen ix)
    {p : Int × Entity} (hp : p.1 ∉ OrderedMap.keys seen) :
    i.Built h places joins (seen ++ [p]) (i.step h places joins ix p) := by
  have hid : (i.record h places joins p.1 p.2).id ∉ ix.ids := fun hid => hp (hb.ids_subset hid)
  rw [Input.step]
  split
  case isTrue hprod =>
    refine ⟨?_, hb.hierarchy, hb.tallied.add hid (fun s => ?_) fun s => ?_⟩
    · rw [Index.elements_add hid, hb.elements]
      simp [List.filter_append, hprod, record]
    · exact SetMaps.mem_keys_properties _ _
    · exact SetMaps.mem_keys_quantities _ _
  case isFalse hprod =>
    refine ⟨?_, hb.hierarchy, hb.tallied⟩
    rw [hb.elements]
    simp [List.filter_append, hprod]

/-- All steps together take in all entities, if no id comes twice. -/
theorem Built.foldl {seen more : List (Int × Entity)} {ix : Index}
    (hb : i.Built h places joins seen ix)
    (hn : (OrderedMap.keys (seen ++ more)).Nodup) :
    i.Built h places joins (seen ++ more) (more.foldl (i.step h places joins) ix) := by
  induction more generalizing seen ix with
  | nil => simpa using hb
  | cons p ps ih =>
    have hp : p.1 ∉ OrderedMap.keys seen := by
      rw [OrderedMap.keys_append] at hn
      exact fun hs => List.disjoint_of_nodup_append hn hs List.mem_cons_self
    have hs := ih (hb.step hp) (by simpa using hn)
    simpa using hs

theorem index_built (i : Input) (h : Hierarchy) (hn : i.graph.entities.keys.Nodup) :
    i.Built h i.placements (Joins.of (i.relationships.getD [])) i.graph.entities (i.index h) := by
  have hb : i.Built h i.placements (Joins.of (i.relationships.getD [])) [] (Index.empty h) :=
    ⟨rfl, rfl, Index.tallied_empty h⟩
  exact hb.foldl hn

/-- What holds of the records there were and of those of products holds of all records. -/
theorem forall_mem_records_foldl {P : Element → Prop} {es : List (Int × Entity)} {ix : Index}
    (hix : ∀ e ∈ ix.records, P e)
    (hes : ∀ p ∈ es, isProduct h p.2 = true → P (i.record h places joins p.1 p.2)) :
    ∀ e ∈ (es.foldl (i.step h places joins) ix).records, P e := by
  induction es generalizing ix with
  | nil => exact hix
  | cons p es ih =>
    obtain ⟨hp, hes⟩ := List.forall_mem_cons.mp hes
    refine ih (fun e he => ?_) hes
    rw [step] at he
    split at he
    case isTrue hprod =>
      obtain ⟨r, hr, rfl⟩ := List.mem_map.mp he
      rcases OrderedMap.mem_put hr with hr | hr
      · exact hix _ (List.mem_map_of_mem hr)
      · exact hr ▸ hp hprod
    case isFalse => exact hix e he

theorem forall_mem_records_index {P : Element → Prop}
    (hes : ∀ p ∈ i.graph.entities, isProduct h p.2 = true →
      P (i.record h i.placements (Joins.of (i.relationships.getD [])) p.1 p.2)) :
    ∀ e ∈ (i.index h).records, P e := by
  have hempty : ∀ e ∈ (Index.empty h).records, P e := fun _ he => absurd he List.not_mem_nil
  exact forall_mem_records_foldl hempty hes

theorem mem_records_index {e : Element} (he : e ∈ (i.index h).records) :
    ∃ p ∈ i.graph.entities,
      e = i.record h i.placements (Joins.of (i.relationships.getD [])) p.1 p.2 :=
  forall_mem_records_index
    (P := fun e => ∃ p ∈ i.graph.entities,
      e = i.record h i.placements (Joins.of (i.relationships.getD [])) p.1 p.2)
    (fun p hp _ => ⟨p, hp, rfl⟩) e he

end Input

end BuildingQuery
