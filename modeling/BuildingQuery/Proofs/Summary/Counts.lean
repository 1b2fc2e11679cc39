import BuildingQuery.Proofs.Number.Order
import BuildingQuery.Proofs.Summary.SetMembers
import BuildingQuery.Summary

/-! The numbers in a summary are those of the records: how many are of a type, how many have a set
or a property in it, how often the listed values occur, and between which bounds quantities lie. -/

namespace BuildingQuery

/-- The ten most common of some values, told apart by their JSON texts, with their numbers. -/
structure CommonValues (vs : List Value) (listed : List (Value × Nat)) : Prop where
  subset : ∀ p ∈ listed, p.1 ∈ vs
  distinct : (listed.map fun p => Json.text none p.1).Nodup
  length_eq : listed.length = min 10 (vs.map (Json.text none)).dedup.length
  sorted : listed.Pairwise fun p q => q.2 ≤ p.2
  count_eq : ∀ p ∈ listed, p.2 = vs.countP fun v => Json.text none v == Json.text none p.1
  unlisted_le : ∀ v ∈ vs, Json.text none v ∉ listed.map (fun p => Json.text none p.1) →
    ∀ p ∈ listed, (vs.countP fun w => Json.text none w == Json.text none v) ≤ p.2

/-- The summary of a property in a set counts the records that have it. -/
structure PropertySummary.Exact (ix : Index) (set : String) (p : PropertySummary) : Prop where
  frequency_eq : p.frequency = ix.records.countP fun e => (memberOf e.properties set p.name).isSome
  kind_eq_none_iff : p.kind = none ↔ ∃ q ∈ ix.valuesOf Element.properties set p.name,
    ∃ r ∈ ix.valuesOf Element.properties set p.name, q.kind ≠ r.kind
  kind_eq_some_iff : ∀ k, p.kind = some k ↔
    ∀ q ∈ ix.valuesOf Element.properties set p.name, q.kind = k
  values : CommonValues ((ix.valuesOf Element.properties set p.name).map (·.value)) p.values

/-- The types of the records that pass, in order. -/
structure AppliesTo (ix : Index) (passes : Element → Bool) (names : List String) : Prop where
  sorted : names.Pairwise (· < ·)
  mem_iff : ∀ name, name ∈ names ↔ ∃ e ∈ ix.records, passes e = true ∧ e.typeName = name

structure PropertySetSummary.Exact (ix : Index) (s : PropertySetSummary) : Prop where
  elementCount_eq : s.elementCount = ix.records.countP fun e => e.properties.contains s.name
  appliesTo : AppliesTo ix (fun e => e.properties.contains s.name) s.appliesTo
  names : Collected (fun e => ((e.properties.get? s.name).getD []).keys) ix.records
    (s.properties.map (·.name))
  properties : ∀ p ∈ s.properties, p.Exact ix s.name

structure QuantitySummary.Exact (ix : Index) (set : String) (q : QuantitySummary) : Prop where
  frequency_eq : q.frequency = ix.records.countP fun e => (memberOf e.quantities set q.name).isSome
  /-- The least and the greatest value, if all are numbers. -/
  range : (∀ x ∈ ix.valuesOf Element.quantities set q.name, x.isNaN = false) →
    q.least ∈ ix.valuesOf Element.quantities set q.name ∧
      q.greatest ∈ ix.valuesOf Element.quantities set q.name ∧
      ∀ x ∈ ix.valuesOf Element.quantities set q.name, q.least ≤ x ∧ x ≤ q.greatest

structure QuantitySetSummary.Exact (ix : Index) (s : QuantitySetSummary) : Prop where
  appliesTo : AppliesTo ix (fun e => e.quantities.contains s.name) s.appliesTo
  names : Collected (fun e => ((e.quantities.get? s.name).getD []).keys) ix.records
    (s.quantities.map (·.name))
  quantities : ∀ q ∈ s.quantities, q.Exact ix s.name

structure TypeSummary.Exact (ix : Index) (t : TypeSummary) : Prop where
  count_eq : t.count = ix.records.countP fun e => e.typeName == t.name
  hasSubtypes_iff : t.hasSubtypes = true ↔ ∃ e ∈ ix.records, t.name ∈ e.ancestry.dropLast

structure Summary.Exact (ix : Index) (s : Summary) : Prop where
  total_eq : s.total = ix.records.length
  typeNames : Collected (fun e => [e.typeName]) ix.records (s.types.map (·.name))
  types_sum : (s.types.map (·.count)).sum = s.total
  types_sorted : s.types.Pairwise fun t u => u.count ≤ t.count
  types : ∀ t ∈ s.types, t.Exact ix
  propertySetNames :
    Collected (fun e => e.properties.keys) ix.records (s.propertySets.map (·.name))
  propertySets : ∀ t ∈ s.propertySets, t.Exact ix
  quantitySetNames :
    Collected (fun e => e.quantities.keys) ix.records (s.quantitySets.map (·.name))
  quantitySets : ∀ t ∈ s.quantitySets, t.Exact ix

/-- What is made of groups, and put in another order, has the names of the groups. -/
theorem Collected.of_perm {α β : Type} {names : Element → List String} {es : List Element}
    {groups : OrderedMap String α} {make : String × α → β} {name : β → String} {listed : List β}
    (h : Collected names es groups.keys) (hp : listed.Perm (groups.map make))
    (hname : ∀ p, name (make p) = p.1) : Collected names es (listed.map name) := by
  have hkeys : (listed.map name).Perm groups.keys := by
    refine (hp.map name).trans (.of_eq ?_)
    rw [List.map_map]
    exact List.map_congr_left fun p _ => hname p
  exact ⟨hkeys.nodup_iff.mpr h.nodup, fun s => hkeys.mem_iff.trans (h.mem_iff s)⟩

section Values

variable {vs : List Value}

theorem find?_text_mostCommon {p : String × Nat} (hp : p ∈ mostCommon (vs.map (Json.text none))) :
    ∃ v ∈ vs, (vs.find? fun v => Json.text none v == p.1) = some v ∧ Json.text none v = p.1 := by
  obtain ⟨t, n⟩ := p
  obtain ⟨v, hv, rfl⟩ := List.mem_map.mp (mem_mostCommon.mp hp).1
  have hsome : (vs.find? fun w => Json.text none w == Json.text none v).isSome = true :=
    List.find?_isSome.mpr ⟨v, hv, by simp⟩
  obtain ⟨w, hw⟩ := Option.isSome_iff_exists.mp hsome
  have htext := List.find?_some hw
  exact ⟨w, List.mem_of_find?_eq_some hw, hw, by simpa using htext⟩

/-- By their texts the listed values are the first of the most common texts. -/
theorem map_text_commonValues (vs : List Value) :
    (commonValues vs).map (fun p => (Json.text none p.1, p.2)) =
      (mostCommon (vs.map (Json.text none))).take 10 := by
  simp only [commonValues, List.map_filterMap, Option.map_map]
  rw [listedValues]
  have hs : ∀ p ∈ (mostCommon (vs.map (Json.text none))).take 10,
      ((vs.find? fun v => Json.text none v == p.1).map
        ((fun q : Value × Nat => (Json.text none q.1, q.2)) ∘ fun v => (v, p.2))) = some p := by
    intro p hp
    obtain ⟨v, -, hfind, htext⟩ := find?_text_mostCommon (List.mem_of_mem_take hp)
    rw [hfind, Option.map_some, Function.comp, htext]
  rw [List.filterMap_congr hs, List.filterMap_some]

theorem count_map_text (vs : List Value) (t : String) :
    (vs.map (Json.text none)).count t = vs.countP fun v => Json.text none v == t := by
  rw [List.count_eq_countP, List.countP_map]
  rfl

theorem commonValues_exact (vs : List Value) : CommonValues vs (commonValues vs) := by
  have hmap := map_text_commonValues vs
  have htexts : (commonValues vs).map (fun p => Json.text none p.1) =
      ((mostCommon (vs.map (Json.text none))).take 10).map (·.1) := by
    rw [← hmap, List.map_map]
    rfl
  have hmem : ∀ p ∈ commonValues vs,
      (Json.text none p.1, p.2) ∈ (mostCommon (vs.map (Json.text none))).take 10 :=
    fun p hp => hmap ▸ List.mem_map.mpr ⟨p, hp, rfl⟩
  have hsorted := mostCommon_sorted (vs.map (Json.text none))
  refine ⟨?_, ?_, ?_, ?_, ?_, ?_⟩
  case refine_1 =>
    intro p hp
    obtain ⟨_, -, hfind⟩ := List.mem_filterMap.mp hp
    obtain ⟨v, hv, rfl⟩ := Option.map_eq_some_iff.mp hfind
    exact List.mem_of_find?_eq_some hv
  case refine_2 =>
    rw [htexts]
    exact (nodup_mostCommon _).sublist ((List.take_sublist _ _).map _)
  case refine_3 =>
    rw [← length_mostCommon, ← List.length_take, ← hmap, List.length_map]
  case refine_4 =>
    have htake := hsorted.sublist (List.take_sublist 10 _)
    rw [← hmap, List.pairwise_map] at htake
    exact htake
  case refine_5 =>
    intro p hp
    have hcount := (mem_mostCommon.mp (List.mem_of_mem_take (hmem p hp))).2
    rwa [count_map_text] at hcount
  case refine_6 =>
    intro v hv hout p hp
    rw [htexts] at hout
    have hall : (Json.text none v, (vs.map (Json.text none)).count (Json.text none v)) ∈
        mostCommon (vs.map (Json.text none)) :=
      mem_mostCommon.mpr ⟨List.mem_map_of_mem hv, rfl⟩
    -- A text that is not among the first ten stands after all of them.
    rw [← List.take_append_drop 10 (mostCommon _)] at hsorted hall
    have hdrop := (List.mem_append.mp hall).resolve_left fun h =>
      hout (List.mem_map.mpr ⟨_, h, rfl⟩)
    have hle := (List.pairwise_append.mp hsorted).2.2 _ (hmem p hp) _ hdrop
    rwa [count_map_text] at hle

end Values

section Kinds

variable {name : String} {ps : List PropertyValue}

theorem PropertySummary.kind_of_eq_some_iff (hne : ps ≠ []) {k : PropertyKind} :
    (PropertySummary.of name ps).kind = some k ↔ ∀ p ∈ ps, p.kind = k := by
  obtain ⟨ks, hks⟩ : ∃ ks, ks = (ps.map (·.kind)).eraseDups := ⟨_, rfl⟩
  have hmem : ∀ j, j ∈ ks ↔ ∃ p ∈ ps, p.kind = j := by
    intro j
    rw [hks, List.mem_eraseDups, List.mem_map]
  have hnodup : ks.Nodup := hks ▸ nodup_eraseDups _
  obtain ⟨q, hq⟩ := List.exists_mem_of_ne_nil _ hne
  simp only [PropertySummary.of, ← hks]
  rcases ks with _ | ⟨j, _ | ⟨l, ks⟩⟩
  · exact absurd ((hmem q.kind).mpr ⟨q, hq, rfl⟩) List.not_mem_nil
  · constructor
    · intro hk p hp
      have hj := (hmem p.kind).mpr ⟨p, hp, rfl⟩
      exact (List.mem_singleton.mp hj).trans (Option.some.inj hk)
    · intro hall
      obtain ⟨p, hp, rfl⟩ := (hmem j).mp List.mem_cons_self
      exact congrArg some (hall p hp)
  · have hjl : j ≠ l := by
      rintro rfl
      exact (List.nodup_cons.mp hnodup).1 List.mem_cons_self
    constructor
    · intro hk
      nomatch hk
    · intro hall
      obtain ⟨p, hp, rfl⟩ := (hmem j).mp List.mem_cons_self
      obtain ⟨r, hr, rfl⟩ := (hmem l).mp (List.mem_cons_of_mem _ List.mem_cons_self)
      exact absurd ((hall p hp).trans (hall r hr).symm) hjl

theorem PropertySummary.kind_of_eq_none_iff (hne : ps ≠ []) :
    (PropertySummary.of name ps).kind = none ↔ ∃ p ∈ ps, ∃ q ∈ ps, p.kind ≠ q.kind := by
  constructor
  · intro hnone
    by_contra hall
    push Not at hall
    obtain ⟨q, hq⟩ := List.exists_mem_of_ne_nil _ hne
    have hk : (PropertySummary.of name ps).kind = some q.kind :=
      (kind_of_eq_some_iff hne).mpr fun p hp => hall p hp q hq
    rw [hnone] at hk
    nomatch hk
  · rintro ⟨p, hp, q, hq, hpq⟩
    refine Option.eq_none_iff_forall_ne_some.mpr fun k hk => hpq ?_
    have hall := (kind_of_eq_some_iff hne).mp hk
    exact (hall p hp).trans (hall q hq).symm

end Kinds

section Range

variable {x : Float} {xs : List Float}

/-- Among numbers the least is below all, and the greatest above. -/
theorem range_of_numbers (h : ∀ y ∈ x :: xs, y.isNaN = false) :
    ∀ y ∈ x :: xs, Ordered.least (fun y z : Float => decide (y < z)) x xs ≤ y ∧
      y ≤ Ordered.greatest (fun y z : Float => decide (y < z)) x xs := by
  intro y hy
  have hleast := Ordered.least_mem (fun y z : Float => decide (y < z)) x xs
  have hgreatest := Ordered.least_mem (fun y z : Float => decide (z < y)) x xs
  constructor
  · rw [Number.le_iff_rank_le (h _ hleast) (h y hy)]
    refine Ordered.rank_least_le Number.rank (fun y hy z hz => ?_) y hy
    rw [decide_eq_true_iff, Number.lt_iff_rank_lt (h y hy) (h z hz)]
  · rw [Ordered.greatest_eq_least, Number.le_iff_rank_le (h y hy) (h _ hgreatest)]
    -- Upwards the ranks fall.
    refine OrderDual.toDual_le_toDual.mp ?_
    refine Ordered.rank_least_le (OrderDual.toDual ∘ Number.rank) (fun y hy z hz => ?_) y hy
    rw [decide_eq_true_iff, Number.lt_iff_rank_lt (h z hz) (h y hy)]
    rfl

end Range

namespace Index

variable {ix : Index}

section Types

theorem types_exact (ix : Index) : ∀ t ∈ ix.typeSummaries, t.Exact ix := by
  intro t ht
  obtain ⟨⟨name, count⟩, hp, rfl⟩ := List.mem_map.mp ht
  obtain ⟨-, rfl⟩ := mem_mostCommon.mp hp
  refine ⟨?_, ?_⟩
  · simp only [List.count_eq_countP, List.countP_map]
    rfl
  · simp

theorem map_name_typeSummaries (ix : Index) :
    ix.typeSummaries.map (·.name) = (mostCommon (ix.records.map (·.typeName))).map (·.1) := by
  rw [typeSummaries, List.map_map]
  rfl

theorem typeNames_collected (ix : Index) :
    Collected (fun e => [e.typeName]) ix.records (ix.typeSummaries.map (·.name)) := by
  rw [map_name_typeSummaries]
  refine ⟨nodup_mostCommon _, fun name => ?_⟩
  rw [mem_keys_mostCommon]
  simp only [List.mem_map, List.mem_singleton, eq_comm]

theorem sum_typeSummaries (ix : Index) : (ix.typeSummaries.map (·.count)).sum = ix.size := by
  have hs := sum_mostCommon (ix.records.map (·.typeName))
  rw [List.length_map] at hs
  rw [typeSummaries, List.map_map]
  exact hs.trans (List.length_map _)

theorem typeSummaries_sorted (ix : Index) :
    ix.typeSummaries.Pairwise fun t u => u.count ≤ t.count := by
  rw [typeSummaries, List.pairwise_map]
  exact mostCommon_sorted _

end Types

section Holders

variable {α : Type} {sets : Element → OrderedMap String α} {set : String}

theorem appliesTo_holders (ix : Index) (sets : Element → OrderedMap String α) (set : String) :
    AppliesTo ix (fun e => (sets e).contains set)
      (typeNames ((ix.holders sets set).map (·.1))) := by
  refine ⟨typeNames_sorted _, fun name => ?_⟩
  simp only [mem_typeNames, mem_map_fst_holders, and_assoc]

theorem collected_setsWith (ix : Index) (sets : Element → OrderedMap String α) :
    Collected (fun e => (sets e).keys) ix.records (ix.setsWith sets).keys := by
  refine ⟨nodup_grouped _, fun set => ?_⟩
  simp only [mem_keys_setsWith, OrderedMap.contains, OrderedMap.isSome_get?_iff]

end Holders

theorem mem_keys_get?_iff {α : Type} {groups : OrderedMap String (OrderedMap String α)}
    {set name : String} : name ∈ ((groups.get? set).getD []).keys ↔
      (memberOf groups set name).isSome = true := by
  rw [memberOf]
  cases groups.get? set with
  | none => simp [OrderedMap.keys]
  | some m => exact OrderedMap.isSome_get?_iff.symm

theorem collected_grouped_holders {α : Type}
    {sets : Element → OrderedMap String (OrderedMap String α)}
    (h : ∀ e ∈ ix.records, SetsOnce (sets e)) (set : String) :
    Collected (fun e => (((sets e).get? set).getD []).keys) ix.records
      (grouped ((ix.holders sets set).flatMap (·.2))).keys := by
  refine ⟨nodup_grouped _, fun name => ?_⟩
  simp only [mem_keys_grouped_holders h, mem_keys_get?_iff]

section Properties

theorem property_exact {set name : String} {ps : List PropertyValue}
    (h : ps = ix.valuesOf Element.properties set name) (hne : ps ≠ []) :
    (PropertySummary.of name ps).Exact ix set := by
  subst h
  exact ⟨length_valuesOf _ _ _, PropertySummary.kind_of_eq_none_iff hne,
    fun _ => PropertySummary.kind_of_eq_some_iff hne, commonValues_exact _⟩

theorem propertySets_exact (h : ix.WellFormed) : ∀ s ∈ ix.propertySetSummaries, s.Exact ix := by
  intro s hs
  have honce : ∀ e ∈ ix.records, SetsOnce e.properties := fun e he => (h e he).properties
  rw [propertySetSummaries, (Ordered.byCount_perm _ _).mem_iff] at hs
  obtain ⟨⟨set, members⟩, hp, rfl⟩ := List.mem_map.mp hs
  obtain ⟨rfl, -⟩ := (mem_setsWith fun e he => (honce e he).keys).mp hp
  refine ⟨length_holders _ _, appliesTo_holders _ _ _, ?_, fun p hp => ?_⟩
  · exact (collected_grouped_holders honce set).of_perm (Ordered.byCount_perm _ _) fun _ => rfl
  · rw [(Ordered.byCount_perm _ _).mem_iff] at hp
    obtain ⟨⟨name, ps⟩, hps, rfl⟩ := List.mem_map.mp hp
    obtain ⟨hvalues, hne⟩ := (mem_grouped_holders honce).mp hps
    exact property_exact hvalues hne

theorem propertySetNames_collected (ix : Index) :
    Collected (fun e => e.properties.keys) ix.records (ix.propertySetSummaries.map (·.name)) := by
  rw [propertySetSummaries]
  exact (collected_setsWith ix Element.properties).of_perm (Ordered.byCount_perm _ _) fun _ => rfl

end Properties

section Quantities

theorem map_name_quantities {groups : OrderedMap String (List Float)}
    (h : ∀ p ∈ groups, p.2 ≠ []) :
    (groups.filterMap fun
      | (_, []) => none
      | (name, x :: xs) => some ({
          name
          least := Ordered.least (fun y z : Float => decide (y < z)) x xs
          greatest := Ordered.greatest (fun y z : Float => decide (y < z)) x xs
          frequency := xs.length + 1 } : QuantitySummary)).map (·.name) = groups.keys := by
  induction groups with
  | nil => rfl
  | cons p groups ih =>
    obtain ⟨name, xs⟩ := p
    obtain ⟨hne, hgroups⟩ := List.forall_mem_cons.mp h
    cases xs with
    | nil => exact absurd rfl hne
    | cons x xs => exact congrArg (name :: ·) (ih hgroups)

theorem quantity_exact {set name : String} {x : Float} {xs : List Float}
    (h : x :: xs = ix.valuesOf Element.quantities set name) :
    QuantitySummary.Exact ix set {
      name
      least := Ordered.least (fun y z : Float => decide (y < z)) x xs
      greatest := Ordered.greatest (fun y z : Float => decide (y < z)) x xs
      frequency := xs.length + 1 } := by
  refine ⟨?_, fun hnumbers => ?_⟩
  · rw [← length_valuesOf, ← h, List.length_cons]
  · rw [← h] at hnumbers ⊢
    exact ⟨Ordered.least_mem _ _ _, Ordered.least_mem _ _ _, range_of_numbers hnumbers⟩

theorem quantitySets_exact (h : ix.WellFormed) : ∀ s ∈ ix.quantitySetSummaries, s.Exact ix := by
  intro s hs
  have honce : ∀ e ∈ ix.records, SetsOnce e.quantities := fun e he => (h e he).quantities
  obtain ⟨⟨set, members⟩, hp, rfl⟩ := List.mem_map.mp hs
  obtain ⟨rfl, -⟩ := (mem_setsWith fun e he => (honce e he).keys).mp hp
  refine ⟨appliesTo_holders _ _ _, ?_, fun q hq => ?_⟩
  · have hnames := collected_grouped_holders honce set
    rw [← map_name_quantities ne_nil_of_mem_grouped] at hnames
    exact hnames
  · obtain ⟨⟨name, xs⟩, hxs, hsome⟩ := List.mem_filterMap.mp hq
    obtain ⟨hvalues, hne⟩ := (mem_grouped_holders honce).mp hxs
    cases xs with
    | nil => exact absurd rfl hne
    | cons x xs =>
      obtain rfl := Option.some.inj hsome
      exact quantity_exact hvalues

theorem quantitySetNames_collected (ix : Index) :
    Collected (fun e => e.quantities.keys) ix.records (ix.quantitySetSummaries.map (·.name)) := by
  rw [quantitySetSummaries]
  exact (collected_setsWith ix Element.quantities).of_perm (.refl _) fun _ => rfl

end Quantities

theorem toSummary_exact (ix : Index) (h : ix.WellFormed) : ix.toSummary.Exact ix where
  total_eq := (List.length_map _).symm
  typeNames := ix.typeNames_collected
  types_sum := ix.sum_typeSummaries
  types_sorted := ix.typeSummaries_sorted
  types := ix.types_exact
  propertySetNames := ix.propertySetNames_collected
  propertySets := propertySets_exact h
  quantitySetNames := ix.quantitySetNames_collected
  quantitySets := quantitySets_exact h

/-- Two doors and a wall with ratings, one of which is a number. -/
def ratings : Index where
  elements := [
    (1, { Element.plain 1 "IfcDoor" with
      properties := [("Pset_Common", [("Rating", ⟨.text, .str "F30", none⟩)])]
      quantities := [("Qto_Base", [("Width", 2)])] }),
    (2, { Element.plain 2 "IfcWall" with
      properties := [("Pset_Common", [("Rating", ⟨.number, .int 30, none⟩)]), ("Pset_Wall", [])] }),
    (3, { Element.plain 3 "IfcDoor" with
      properties := [("Pset_Common", [("Rating", ⟨.text, .str "F30", none⟩)])] })]
  hierarchy := ⟨[]⟩

theorem toSummary_exact_ratings :
    ratings.WellFormed ∧ ∃ s ∈ ratings.toSummary.propertySets, s.name = "Pset_Common" ∧
      s.elementCount = 3 ∧ "IfcWall" ∈ s.appliesTo ∧
      ∃ p ∈ s.properties, p.name = "Rating" ∧ p.frequency = 3 ∧ p.kind = none := by
  have hw : ratings.WellFormed := by decide
  have hexact := toSummary_exact ratings hw
  obtain ⟨s, hs, hname⟩ := List.mem_map.mp ((hexact.propertySetNames.mem_iff "Pset_Common").mpr
    (by decide))
  have hset := hexact.propertySets s hs
  obtain ⟨p, hp, hrating⟩ := List.mem_map.mp ((hset.names.mem_iff "Rating").mpr
    (by rw [hname]; decide))
  have hproperty := hset.properties p hp
  refine ⟨hw, s, hs, hname, ?_, ?_, p, hp, hrating, ?_, ?_⟩
  · rw [hset.elementCount_eq, hname]
    decide
  · rw [hset.appliesTo.mem_iff, hname]
    decide
  · rw [hproperty.frequency_eq, hname, hrating]
    decide
  · rw [hproperty.kind_eq_none_iff, hname, hrating]
    decide

end Index

end BuildingQuery
