import BuildingQuery.Proofs.Index.Coherence
import BuildingQuery.Proofs.Index.Joins

/-! Connections count both ways: of two elements each is connected to the other as often as the
connections relate the two, whichever of them is the relating one. -/

namespace BuildingQuery

/-- The pair has these two ends, in either order. -/
def Pair.Connects (p : Pair) (a b : Int) : Prop := p = ⟨a, b⟩ ∨ p = ⟨b, a⟩

instance (p : Pair) (a b : Int) : Decidable (p.Connects a b) :=
  inferInstanceAs (Decidable (p = ⟨a, b⟩ ∨ p = ⟨b, a⟩))

/-- Connections are of two kinds, those of elements and those of the paths of elements. -/
def Relationship.IsConnection (r : Relationship) : Prop :=
  Text.upper r.typeName = "IFCRELCONNECTSELEMENTS" ∨
    Text.upper r.typeName = "IFCRELCONNECTSPATHELEMENTS"

instance (r : Relationship) : Decidable r.IsConnection :=
  inferInstanceAs (Decidable (_ ∨ _))

def connectionPairs (rs : List Relationship) : List Pair :=
  (rs.filter fun r => r.IsConnection).flatMap Relationship.pairs

variable {a b : Int}

theorem Pair.connects_comm {p : Pair} : p.Connects a b ↔ p.Connects b a := or_comm

theorem Join.ofType?_eq_connection_iff {r : Relationship} :
    Join.ofType? r.typeName = some .connection ↔ r.IsConnection := by
  rw [ofType?, Relationship.IsConnection]
  split <;> simp_all

theorem Join.pairs_connection (rs : List Relationship) :
    Join.connection.pairs rs = connectionPairs rs := by
  rw [pairs, connectionPairs]
  congr 2
  funext r
  rw [Bool.eq_iff_iff, beq_iff_eq, decide_eq_true_iff]
  exact ofType?_eq_connection_iff

theorem count_neighbours_singleton (p : Pair) (hne : a ≠ b) :
    (neighbours [p] a).count b = if p.Connects a b then 1 else 0 := by
  obtain ⟨relating, related⟩ := p
  simp only [neighbours, List.flatMap_singleton, List.count_append, Pair.Connects, Pair.mk.injEq]
  by_cases hrelating : relating = a
  · subst hrelating
    -- The second end of a pair of an element with itself is not the other element either.
    by_cases hself : related = relating
    · simp [hself, hne]
    · simp [hself, hne, List.count_singleton]
  · by_cases hrelated : related = a
    · subst hrelated
      simp [hrelating, List.count_singleton]
    · simp [hrelating, hrelated]

/-- A pair with two different ends makes each of them a neighbour of the other once. -/
theorem count_neighbours (ps : List Pair) (hne : a ≠ b) :
    (neighbours ps a).count b = ps.countP fun p => p.Connects a b := by
  induction ps with
  | nil => rfl
  | cons p ps ih =>
    rw [List.countP_cons, ← List.singleton_append, neighbours_append, List.count_append, ih,
      count_neighbours_singleton p hne, Nat.add_comm]
    simp only [decide_eq_true_iff]

theorem count_neighbours_comm (ps : List Pair) (hne : a ≠ b) :
    (neighbours ps a).count b = (neighbours ps b).count a := by
  simp only [count_neighbours ps hne, count_neighbours ps hne.symm, Pair.connects_comm (a := a)]

namespace Input

theorem connectedTo_eq {i : Input} {h : Hierarchy} {e : Element} (he : e ∈ (i.index h).records) :
    e.relations.connectedTo = neighbours (connectionPairs (i.relationships.getD [])) e.id := by
  obtain ⟨p, -, rfl⟩ := mem_records_index he
  rw [← Join.pairs_connection]
  simp only [record, Joins.relations_of]

/-- Each of two elements is connected to the other as often as connections relate the two. -/
theorem connections_symmetric (i : Input) (h : Hierarchy) :
    ∀ a ∈ (i.index h).records, ∀ b ∈ (i.index h).records, a.id ≠ b.id →
      a.relations.connectedTo.count b.id = b.relations.connectedTo.count a.id ∧
        a.relations.connectedTo.count b.id =
          (connectionPairs (i.relationships.getD [])).countP fun p => p.Connects a.id b.id := by
  intro a ha b hb hne
  rw [connectedTo_eq ha, connectedTo_eq hb]
  exact ⟨count_neighbours_comm _ hne, count_neighbours _ hne⟩

/-- Connections of both kinds in either direction, given twice, of an element with itself and with
ids that are not indexed; what voids an element is not connected to it. -/
def connected : Input where
  graph := {
    entities := [
      (4, ⟨4, "IfcWall", .positional []⟩),
      (2, ⟨2, "IfcDoor", .positional []⟩)]
    idsByType := [] }
  relationships := some [
    ⟨"IfcRelConnectsElements", 4, [2, 4, 9, 2]⟩,
    ⟨"IFCRELCONNECTSPATHELEMENTS", 2, [4]⟩,
    ⟨"IfcRelConnectsPathElements", 9, [2, 4]⟩,
    ⟨"IfcRelVoidsElement", 4, [2]⟩]

theorem connections_symmetric_connected :
    (connected.index wallsAndDoors).ids = [4, 2] ∧
      ∃ a ∈ (connected.index wallsAndDoors).records, ∃ b ∈ (connected.index wallsAndDoors).records,
        a.id = 4 ∧ b.id = 2 ∧ a.relations.connectedTo.count b.id = 3 ∧
          b.relations.connectedTo.count a.id = 3 := by
  have hids : (connected.index wallsAndDoors).records.map (·.id) = [4, 2] := by decide +kernel
  have hrecord : ∀ id ∈ [4, 2], ∃ e ∈ (connected.index wallsAndDoors).records, e.id = id :=
    fun id hid => List.mem_map.mp (hids ▸ hid)
  obtain ⟨a, ha, haid⟩ := hrecord 4 (by decide)
  obtain ⟨b, hb, hbid⟩ := hrecord 2 (by decide)
  obtain ⟨hcomm, hcount⟩ :=
    connections_symmetric connected wallsAndDoors a ha b hb (by rw [haid, hbid]; decide)
  have hpairs : a.relations.connectedTo.count b.id = 3 := by
    rw [hcount, haid, hbid]
    decide +kernel
  exact ⟨by decide +kernel, a, ha, b, hb, haid, hbid, hpairs, hcomm ▸ hpairs⟩

end Input

end BuildingQuery
