import BuildingQuery.Index.Build
import BuildingQuery.Proofs.OrderedMap
import Mathlib.Data.List.Induction

/-! What the tables of relationships say, read off the pairs that the relationships bring to each of
them. An index depends on nothing else of its relationships. -/

namespace BuildingQuery

structure Pair where
  relating : Int
  related : Int
deriving DecidableEq

def Relationship.pairs (r : Relationship) : List Pair := r.related.map (⟨r.relating, ·⟩)

/-- The pairs that go to a table, in the order of the relationships. -/
def Join.pairs (j : Join) (rs : List Relationship) : List Pair :=
  (rs.filter fun r => Join.ofType? r.typeName == some j).flatMap Relationship.pairs

def relatingTo (ps : List Pair) (id : Int) : List Int :=
  (ps.filter (·.related == id)).map (·.relating)

def relatedBy (ps : List Pair) (id : Int) : List Int :=
  (ps.filter (·.relating == id)).map (·.related)

/-- The other ends of the pairs that name an element; a pair of an element with itself has two. -/
def neighbours (ps : List Pair) (id : Int) : List Int :=
  ps.flatMap fun p =>
    (if p.relating = id then [p.related] else []) ++ if p.related = id then [p.relating] else []

/-- A slot for one id has one of those that may stand in it, and is empty only if there is none. -/
def FilledBy (slot : Option Int) (fills : Int → Prop) : Prop :=
  (slot.isSome ↔ ∃ a, fills a) ∧ ∀ a, slot = some a → fills a

section Pairs

variable {j : Join} {rs rs' : List Relationship} {ps qs : List Pair} {id : Int}

theorem Join.pairs_append (j : Join) (rs rs' : List Relationship) :
    j.pairs (rs ++ rs') = j.pairs rs ++ j.pairs rs' := by
  simp only [pairs, List.filter_append, List.flatMap_append]

theorem Join.pairs_append_singleton (j : Join) (rs : List Relationship) (r : Relationship) :
    j.pairs (rs ++ [r]) =
      if Join.ofType? r.typeName = some j then j.pairs rs ++ r.pairs else j.pairs rs := by
  rw [pairs_append]
  by_cases h : Join.ofType? r.typeName = some j <;> simp [pairs, h]

theorem Join.pairs_flatMap {α : Type} (k : Join) (as : List α) (f : α → List Relationship) :
    k.pairs (as.flatMap f) = as.flatMap fun a => k.pairs (f a) := by
  induction as with
  | nil => rfl
  | cons a as ih => rw [List.flatMap_cons, pairs_append, ih, List.flatMap_cons]

/-- The name of relationships decides whether their pairs go to a table. -/
theorem Join.pairs_named (k : Join) (t : String) (relating related : List Int) :
    k.pairs (relating.map (⟨t, ·, related⟩)) =
      if Join.ofType? t = some k then relating.flatMap fun a => related.map (⟨a, ·⟩) else [] := by
  by_cases ht : Join.ofType? t = some k
  · simp [pairs, Relationship.pairs, List.filter_map, Function.comp_def, List.flatMap_map, ht]
  · simp [pairs, List.filter_map, Function.comp_def, ht]

theorem Join.mem_pairs {k : Join} {p : Pair} :
    p ∈ k.pairs rs ↔ ∃ r ∈ rs, Join.ofType? r.typeName = some k ∧ r.relating = p.relating ∧
      p.related ∈ r.related := by
  simp only [pairs, Relationship.pairs, List.mem_flatMap, List.mem_filter, List.mem_map,
    beq_iff_eq]
  constructor
  · rintro ⟨r, ⟨hr, hk⟩, b, hb, rfl⟩
    exact ⟨r, hr, hk, rfl, hb⟩
  · rintro ⟨r, hr, hk, ha, hb⟩
    exact ⟨r, ⟨hr, hk⟩, p.related, hb, by rw [ha]⟩

theorem relatingTo_append (ps qs : List Pair) (id : Int) :
    relatingTo (ps ++ qs) id = relatingTo ps id ++ relatingTo qs id := by
  simp only [relatingTo, List.filter_append, List.map_append]

theorem relatedBy_append (ps qs : List Pair) (id : Int) :
    relatedBy (ps ++ qs) id = relatedBy ps id ++ relatedBy qs id := by
  simp only [relatedBy, List.filter_append, List.map_append]

theorem neighbours_append (ps qs : List Pair) (id : Int) :
    neighbours (ps ++ qs) id = neighbours ps id ++ neighbours qs id := by
  simp only [neighbours, List.flatMap_append]

theorem relatingTo_pairs (r : Relationship) (id : Int) :
    relatingTo r.pairs id = List.replicate (r.related.count id) r.relating := by
  rw [relatingTo, Relationship.pairs, List.filter_map, List.map_map]
  have hconst : (Pair.relating ∘ fun x => ⟨r.relating, x⟩) = fun _ : Int => r.relating := rfl
  rw [hconst, List.map_const', List.count_eq_length_filter]
  rfl

theorem relatedBy_pairs (r : Relationship) (id : Int) :
    relatedBy r.pairs id = if r.relating = id then r.related else [] := by
  rw [relatedBy, Relationship.pairs, List.filter_map, List.map_map]
  by_cases h : r.relating = id
  · simp [Function.comp_def, h]
  · simp [Function.comp_def, h]

theorem mem_relatingTo {a : Int} : a ∈ relatingTo ps id ↔ ⟨a, id⟩ ∈ ps := by
  simp only [relatingTo, List.mem_map, List.mem_filter, beq_iff_eq]
  constructor
  · rintro ⟨p, ⟨hp, rfl⟩, rfl⟩
    exact hp
  · intro hp
    exact ⟨_, ⟨hp, rfl⟩, rfl⟩

theorem mem_relatedBy {a : Int} : a ∈ relatedBy ps id ↔ ⟨id, a⟩ ∈ ps := by
  simp only [relatedBy, List.mem_map, List.mem_filter, beq_iff_eq]
  constructor
  · rintro ⟨p, ⟨hp, rfl⟩, rfl⟩
    exact hp
  · intro hp
    exact ⟨_, ⟨hp, rfl⟩, rfl⟩

theorem filledBy_getLast? (ps : List Pair) (id : Int) :
    FilledBy (relatingTo ps id).getLast? fun a => ⟨a, id⟩ ∈ ps := by
  constructor
  · rw [List.getLast?_isSome]
    constructor
    · intro hne
      obtain ⟨a, ha⟩ := List.exists_mem_of_ne_nil _ hne
      exact ⟨a, mem_relatingTo.mp ha⟩
    · rintro ⟨a, ha⟩
      exact List.ne_nil_of_mem (mem_relatingTo.mpr ha)
  · intro a ha
    exact mem_relatingTo.mp (List.mem_of_getLast? ha)

theorem mem_neighbours {a : Int} : a ∈ neighbours ps id ↔ ⟨id, a⟩ ∈ ps ∨ ⟨a, id⟩ ∈ ps := by
  simp only [neighbours, List.mem_flatMap, List.mem_append, List.mem_ite_nil_right,
    List.mem_singleton]
  constructor
  · rintro ⟨p, hp, ⟨rfl, rfl⟩ | ⟨rfl, rfl⟩⟩
    · exact .inl hp
    · exact .inr hp
  · rintro (hp | hp)
    · exact ⟨_, hp, .inl ⟨rfl, rfl⟩⟩
    · exact ⟨_, hp, .inr ⟨rfl, rfl⟩⟩

end Pairs

namespace Joins

/-- Each table holds what is to be read off its pairs. -/
structure Reads (j : Joins) (ps : Join → List Pair) : Prop where
  definitions : ∀ id, (j.definitions.get? id).getD [] = relatingTo (ps .definition) id
  types : ∀ id, j.types.get? id = (relatingTo (ps .type) id).getLast?
  containments : ∀ id, j.containments.get? id = (relatingTo (ps .containment) id).getLast?
  aggregations : ∀ id, j.aggregations.get? id = (relatingTo (ps .aggregation) id).getLast?
  connections : ∀ id, (j.connections.get? id).getD [] = neighbours (ps .connection) id
  openings : ∀ id, (j.openings.get? id).getD [] = relatedBy (ps .opening) id
  fillings : ∀ id, j.fillings.get? id = (relatingTo (ps .filling) id).getLast?

section Tables

variable {groups : OrderedMap Int (List Int)} {m : OrderedMap Int Int} {ps : List Pair}

theorem getD_pushAll_related (h : ∀ id, (groups.get? id).getD [] = relatingTo ps id)
    (r : Relationship) (id : Int) :
    ((groups.pushAll r.related r.relating).get? id).getD [] = relatingTo (ps ++ r.pairs) id := by
  rw [OrderedMap.getD_pushAll, h, relatingTo_append, relatingTo_pairs]

theorem get?_putEach_related (h : ∀ id, m.get? id = (relatingTo ps id).getLast?)
    (r : Relationship) (id : Int) :
    (m.putEach r.related r.relating).get? id = (relatingTo (ps ++ r.pairs) id).getLast? := by
  rw [OrderedMap.get?_putEach, relatingTo_append, relatingTo_pairs, List.getLast?_append,
    List.getLast?_replicate, h]
  by_cases hid : id ∈ r.related
  · have hcount : r.related.count id ≠ 0 := by simpa [List.count_eq_zero] using hid
    simp [hid, hcount]
  · have hcount : r.related.count id = 0 := List.count_eq_zero.mpr hid
    simp [hid, hcount]

theorem getD_connected (h : ∀ id, (groups.get? id).getD [] = neighbours ps id)
    (r : Relationship) (id : Int) :
    (OrderedMap.get? (r.related.foldl (fun m id => (m.push r.relating id).push id r.relating)
      groups) id).getD [] = neighbours (ps ++ r.pairs) id := by
  obtain ⟨typeName, a, bs⟩ := r
  induction bs generalizing groups ps with
  | nil => simpa [Relationship.pairs] using h id
  | cons b bs ih =>
    -- Both ends of a pair become neighbours of each other, the related end of the relating one first.
    have hstep : ∀ id, (((groups.push a b).push b a).get? id).getD [] =
        neighbours (ps ++ [⟨a, b⟩]) id := by
      intro id
      have hpair : neighbours [⟨a, b⟩] id =
          (if a = id then [b] else []) ++ if b = id then [a] else [] := by simp [neighbours]
      rw [neighbours_append, ← h, hpair]
      by_cases hb : b = id
      · subst hb
        by_cases ha : a = b
        · subst ha
          simp [OrderedMap.get?_push_self]
        · simp [OrderedMap.get?_push_self, OrderedMap.get?_push_of_ne _ _ (Ne.symm ha), ha]
      · rw [OrderedMap.get?_push_of_ne _ _ (Ne.symm hb)]
        by_cases ha : a = id
        · subst ha
          simp [OrderedMap.get?_push_self, hb]
        · simp [OrderedMap.get?_push_of_ne _ _ (Ne.symm ha), ha, hb]
    have hs := ih hstep
    simpa [Relationship.pairs] using hs

theorem getD_opened (h : ∀ id, (groups.get? id).getD [] = relatedBy ps id)
    (r : Relationship) (id : Int) :
    ((groups.put r.relating ((groups.get? r.relating).getD [] ++ r.related)).get? id).getD [] =
      relatedBy (ps ++ r.pairs) id := by
  rw [relatedBy_append, relatedBy_pairs, ← h]
  by_cases hr : r.relating = id
  · subst hr
    simp [OrderedMap.get?_put_self]
  · simp [OrderedMap.get?_put_of_ne _ _ (Ne.symm hr), hr]

end Tables

variable {j : Joins} {ps : Join → List Pair}

/-- A relationship adds its pairs to those of one table, or to none. -/
theorem Reads.add (h : j.Reads ps) (r : Relationship) :
    (j.add r).Reads fun k =>
      if Join.ofType? r.typeName = some k then ps k ++ r.pairs else ps k := by
  rw [Joins.add]
  cases Join.ofType? r.typeName with
  | none => exact h
  | some k =>
    cases k with
    | definition => exact { h with definitions := getD_pushAll_related h.definitions r }
    | type => exact { h with types := get?_putEach_related h.types r }
    | containment => exact { h with containments := get?_putEach_related h.containments r }
    | aggregation => exact { h with aggregations := get?_putEach_related h.aggregations r }
    | connection => exact { h with connections := getD_connected h.connections r }
    | opening => exact { h with openings := getD_opened h.openings r }
    | filling => exact { h with fillings := get?_putEach_related h.fillings r }

theorem reads_of (rs : List Relationship) : (Joins.of rs).Reads fun k => k.pairs rs := by
  induction rs using List.reverseRecOn with
  | nil => constructor <;> intro id <;> rfl
  | append_singleton rs r ih =>
    have hadd := ih.add r
    simp only [← Join.pairs_append_singleton] at hadd
    rwa [Joins.of, List.foldl_append]

/-- What is joined to an element, said by the pairs that name it. -/
theorem definitionsOf_of (rs : List Relationship) (id : Int) :
    (Joins.of rs).definitionsOf id = relatingTo (Join.definition.pairs rs) id :=
  (reads_of rs).definitions id

theorem relations_of (rs : List Relationship) (storey : Option Int) (id : Int) :
    (Joins.of rs).relations storey id =
      { containedIn := (relatingTo (Join.containment.pairs rs) id).getLast?.or storey
        aggregatedBy := (relatingTo (Join.aggregation.pairs rs) id).getLast?
        connectedTo := neighbours (Join.connection.pairs rs) id
        hasOpenings := relatedBy (Join.opening.pairs rs) id
        fillsOpening := (relatingTo (Join.filling.pairs rs) id).getLast?
        hasType := (relatingTo (Join.type.pairs rs) id).getLast? } := by
  have h := reads_of rs
  simp only [relations, h.types, h.containments, h.aggregations, h.connections, h.openings,
    h.fillings]

end Joins

end BuildingQuery
