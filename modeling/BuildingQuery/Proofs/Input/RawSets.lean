import BuildingQuery.Input.RawSets
import BuildingQuery.Proofs.Number.Range
import BuildingQuery.Proofs.OrderedMap

/-! The sets among raw entities, whatever the attributes hold. The sets of a graph are read unless
one has a single value in the place of its references, or the value of a quantity is an integer that
is too large for a float. Then every entity of the type has one set, with what can be used of the
entities that it refers to. -/

namespace BuildingQuery

namespace Value

/-- A number other than zero, or true: neither holds anything nor stands for nothing. -/
def isSingle : Value → Bool
  | .bool b => b
  | .int n => n != 0
  | .float x => !(x == 0)
  | _ => false

/-- The ids among the items of a list or the keys of a map. -/
def referenceIds : Value → List Int
  | .list vs => vs.filterMap fun
    | .int n => some n
    | .bool b => some (if b then 1 else 0)
    | _ => none
  | .map es => es.filterMap fun e => match e.1 with
    | .int n => some n
    | _ => none
  | _ => []

end Value

theorem references_eq (v : Value) :
    references v = if v.isSingle then .error .mistyped else .ok v.referenceIds := by
  cases v with
  | bool b => cases b <;> rfl
  | int n => by_cases hn : n = 0 <;> simp [references, Value.isSingle, Value.referenceIds, hn] <;> rfl
  | float x => cases hx : x == 0 <;> simp [references, Value.isSingle, Value.referenceIds, hx] <;> rfl
  | _ => rfl

namespace Entity

/-- What the properties of a set are referred to by. -/
def propertyReferences (e : Entity) : Value := (e.attribute? 4 "HasProperties").getD .null

def quantityReferences (e : Entity) : Value := (e.attribute? 5 "Quantities").getD .null

end Entity

/-- Members by their names, from the references that have one. -/
structure Collects {α : Type} (P : Int → String → α → Prop) (refs : List Int)
    (m : OrderedMap String α) : Prop where
  mem_keys_iff : ∀ name, name ∈ m.keys ↔ ∃ id ∈ refs, ∃ a, P id name a
  /-- Of several members with one name the last counts. -/
  eq_some_iff : ∀ name a, m.get? name = some a ↔
    LastAt (fun id => ∀ b, ¬ P id name b) (fun id => P id name a) refs

theorem collects_ofList {α : Type} {P : Int → String → α → Prop} {f : Int → Option (String × α)}
    (hP : ∀ id name a, P id name a ↔ f id = some (name, a)) (refs : List Int) :
    Collects P refs (OrderedMap.ofList (refs.filterMap f)) where
  mem_keys_iff name := by
    simp only [OrderedMap.mem_keys_ofList, List.mem_filterMap, hP]
    constructor
    · rintro ⟨⟨_, a⟩, ⟨id, hid, hf⟩, rfl⟩
      exact ⟨id, hid, a, hf⟩
    · rintro ⟨id, hid, a, hf⟩
      exact ⟨(name, a), ⟨id, hid, hf⟩, rfl⟩
  eq_some_iff name a := by
    rw [OrderedMap.get?_ofList_eq_some_iff, lastAt_filterMap]
    refine lastAt_congr (fun id => ?_) fun id => ?_
    · simp only [hP]
      constructor
      · rintro h b hb
        exact h _ hb rfl
      · rintro h ⟨_, b⟩ hb rfl
        exact h b hb
    · simp [hP]

namespace EntityGraph

variable {g : EntityGraph} {typeName : String} {σ : Type}

/-- One set for each entity of the type that the graph has. -/
structure Extracts (g : EntityGraph) (typeName : String) (P : Entity → σ → Prop)
    (m : OrderedMap Int σ) : Prop where
  nodup : m.keys.Nodup
  mem_keys_iff : ∀ id, id ∈ m.keys ↔ id ∈ g.idsOfType typeName ∧ id ∈ g.entities.keys
  of_get? : ∀ id s, m.get? id = some s → ∃ e, g.entities.get? id = some e ∧ P e s

theorem mem_ofType {id : Int} {e : Entity} :
    (id, e) ∈ g.ofType typeName ↔ id ∈ g.idsOfType typeName ∧ g.entities.get? id = some e := by
  simp only [ofType, List.mem_filterMap, Option.map_eq_some_iff, Prod.mk.injEq]
  constructor
  · rintro ⟨_, hid, _, he, rfl, rfl⟩
    exact ⟨hid, he⟩
  · rintro ⟨hid, he⟩
    exact ⟨id, hid, e, he, rfl, rfl⟩

theorem extracts_ofList {P : Entity → σ → Prop} {sets : List (Int × σ)}
    (h : List.Forall₂ (fun p q => q.1 = p.1 ∧ P p.2 q.2) (g.ofType typeName) sets) :
    g.Extracts typeName P (OrderedMap.ofList sets) where
  nodup := OrderedMap.nodup_ofList sets
  mem_keys_iff id := by
    have hkeys : sets.map (·.1) = (g.ofType typeName).map (·.1) := by
      rw [← List.forall₂_eq_eq_eq, List.forall₂_map_left_iff, List.forall₂_map_right_iff]
      exact (h.imp fun _ _ hpq => hpq.1).flip
    rw [OrderedMap.mem_keys_ofList, ← OrderedMap.isSome_get?_iff, Option.isSome_iff_exists]
    have hmem : (∃ q ∈ sets, q.1 = id) ↔ id ∈ sets.map (·.1) := by simp
    rw [hmem, hkeys, List.mem_map]
    constructor
    · rintro ⟨⟨_, e⟩, he, rfl⟩
      obtain ⟨hid, he⟩ := mem_ofType.mp he
      exact ⟨hid, e, he⟩
    · rintro ⟨hid, e, he⟩
      exact ⟨(id, e), mem_ofType.mpr ⟨hid, he⟩, rfl⟩
  of_get? id s hs := by
    obtain ⟨⟨_, e⟩, he, rfl, hP⟩ := exists_of_forall₂ h _ (OrderedMap.mem_of_get?_ofList hs)
    exact ⟨e, (mem_ofType.mp he).2, hP⟩

/-- The entity under the id is a property with that name and value. -/
def HasProperty (g : EntityGraph) (id : Int) (name : String) (v : PropertyValue) : Prop :=
  ∃ e, g.entities.get? id = some e ∧ e.property? = some (name, v)

/-- The entity under the id has a name, and a value that stands for the number. -/
def HasQuantity (g : EntityGraph) (id : Int) (name : String) (x : Float) : Prop :=
  ∃ e, g.entities.get? id = some e ∧ e.memberName? = some name ∧
    Comparison.number? (unwrapped e.quantityValue) = .ok (some x)

/-- The property set that an entity stands for. -/
structure IsPropertySet (g : EntityGraph) (e : Entity) (s : PropertySet) : Prop where
  name : s.name = e.setName
  properties : Collects g.HasProperty e.propertyReferences.referenceIds s.properties

structure IsQuantitySet (g : EntityGraph) (e : Entity) (s : QuantitySet) : Prop where
  name : s.name = e.setName
  quantities : Collects g.HasQuantity e.quantityReferences.referenceIds s.quantities

/-- The property set that an entity is read as. -/
def propertySetOf (g : EntityGraph) (e : Entity) : Except Fault PropertySet := do
  let members ← g.referenced e 4 "HasProperties"
  return ⟨e.setName, OrderedMap.ofList (members.filterMap Entity.property?)⟩

def quantitySetOf (g : EntityGraph) (e : Entity) : Except Fault QuantitySet := do
  let members ← (← g.referenced e 5 "Quantities").mapM Entity.quantity?
  return ⟨e.setName, OrderedMap.ofList (members.filterMap id)⟩

theorem propertySets_eq (g : EntityGraph) : g.propertySets =
    OrderedMap.ofList <$>
      (g.ofType "IFCPROPERTYSET").mapM fun p => (p.1, ·) <$> g.propertySetOf p.2 := by
  rw [propertySets, map_eq_pure_bind]
  simp only [propertySetOf, map_bind, map_pure]

theorem quantitySets_eq (g : EntityGraph) : g.quantitySets =
    OrderedMap.ofList <$>
      (g.ofType "IFCELEMENTQUANTITY").mapM fun p => (p.1, ·) <$> g.quantitySetOf p.2 := by
  rw [quantitySets, map_eq_pure_bind]
  simp only [quantitySetOf, map_bind, map_pure]

theorem referenced_eq (g : EntityGraph) (e : Entity) (position : Nat) (name : String) :
    g.referenced e position name =
      if ((e.attribute? position name).getD .null).isSingle then .error .mistyped
      else .ok (((e.attribute? position name).getD .null).referenceIds.filterMap
        g.entities.get?) := by
  rw [referenced, references_eq]
  split <;> rfl

theorem propertySetOf_eq (g : EntityGraph) (e : Entity) : g.propertySetOf e =
    if e.propertyReferences.isSingle then .error .mistyped
    else .ok ⟨e.setName, OrderedMap.ofList (e.propertyReferences.referenceIds.filterMap fun id =>
      (g.entities.get? id).bind Entity.property?)⟩ := by
  rw [propertySetOf, referenced_eq, ← Entity.propertyReferences]
  split
  · rfl
  · rw [← List.filterMap_filterMap]
    rfl

theorem quantitySetOf_eq (g : EntityGraph) (e : Entity) : g.quantitySetOf e =
    if e.quantityReferences.isSingle then .error .mistyped
    else (fun qs => ⟨e.setName, OrderedMap.ofList (qs.filterMap id)⟩) <$>
      (e.quantityReferences.referenceIds.filterMap g.entities.get?).mapM Entity.quantity? := by
  rw [quantitySetOf, referenced_eq, ← Entity.quantityReferences]
  split
  · rfl
  · rw [map_eq_pure_bind]
    rfl

theorem isPropertySet_of_eq_ok {e : Entity} {s : PropertySet} (h : g.propertySetOf e = .ok s) :
    g.IsPropertySet e s := by
  rw [propertySetOf_eq] at h
  split at h
  · nomatch h
  · obtain rfl := Except.ok.inj h
    refine ⟨rfl, collects_ofList (fun id name v => ?_) _⟩
    rw [HasProperty, Option.bind_eq_some_iff]

end EntityGraph

/-- The quantity that an entity stands for, where its value can be read. -/
def Entity.measure? (e : Entity) : Option (String × Float) := e.quantity?.toOption.join

theorem Entity.measure?_eq_some_iff {e : Entity} {name : String} {x : Float} :
    e.measure? = some (name, x) ↔
      e.memberName? = some name ∧ Comparison.number? (unwrapped e.quantityValue) = .ok (some x) := by
  rw [measure?, quantity?]
  cases Comparison.number? (unwrapped e.quantityValue) with
  | error f => simp [bind, Except.bind, Except.toOption]
  | ok y => cases y <;> simp [bind, Except.bind, pure, Except.pure, Except.toOption,
    Option.bind_eq_some_iff]

theorem filterMap_of_mapM_quantity? {es : List Entity} {qs : List (Option (String × Float))}
    (h : es.mapM Entity.quantity? = .ok qs) : qs.filterMap id = es.filterMap Entity.measure? := by
  have hqs := mapM_eq_ok_iff.mp h
  clear h
  induction hqs with
  | nil => rfl
  | cons hq _ ih =>
    have hone : Entity.measure? _ = _ := congrArg (fun r => r.toOption.join) hq
    rw [List.filterMap_cons, List.filterMap_cons, hone, ih]
    rfl

namespace EntityGraph

variable {g : EntityGraph}

theorem isQuantitySet_of_eq_ok {e : Entity} {s : QuantitySet} (h : g.quantitySetOf e = .ok s) :
    g.IsQuantitySet e s := by
  rw [quantitySetOf_eq] at h
  split at h
  · nomatch h
  · obtain ⟨qs, hqs, rfl⟩ := map_eq_ok_iff.mp h
    refine ⟨rfl, ?_⟩
    dsimp only
    rw [filterMap_of_mapM_quantity? hqs, List.filterMap_filterMap]
    refine collects_ofList (fun id name x => ?_) _
    simp only [HasQuantity, Option.bind_eq_some_iff, Entity.measure?_eq_some_iff]

theorem keyed_eq_ok {of : Entity → Except Fault σ} {P : Entity → σ → Prop}
    (hP : ∀ e s, of e = .ok s → P e s) {m : OrderedMap Int σ}
    (h : OrderedMap.ofList <$> ((g.ofType typeName).mapM fun p => (p.1, ·) <$> of p.2) = .ok m) :
    g.Extracts typeName P m := by
  obtain ⟨sets, hsets, rfl⟩ := map_eq_ok_iff.mp h
  refine extracts_ofList ((mapM_eq_ok_iff.mp hsets).imp fun p q hpq => ?_)
  obtain ⟨s, hs, rfl⟩ := map_eq_ok_iff.mp hpq
  exact ⟨rfl, hP p.2 s hs⟩

theorem extracts_propertySets {m : OrderedMap Int PropertySet} (h : g.propertySets = .ok m) :
    g.Extracts "IFCPROPERTYSET" g.IsPropertySet m :=
  keyed_eq_ok (fun _ _ => isPropertySet_of_eq_ok) (g.propertySets_eq ▸ h)

theorem extracts_quantitySets {m : OrderedMap Int QuantitySet} (h : g.quantitySets = .ok m) :
    g.Extracts "IFCELEMENTQUANTITY" g.IsQuantitySet m :=
  keyed_eq_ok (fun _ _ => isQuantitySet_of_eq_ok) (g.quantitySets_eq ▸ h)

end EntityGraph

end BuildingQuery
