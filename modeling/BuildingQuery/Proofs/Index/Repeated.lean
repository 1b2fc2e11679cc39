import BuildingQuery.Proofs.Index.Coherence

/-! Ids that come again in a lookup. An element has one type, and at most one storey and one
material; only its classifications can have one key several times. -/

namespace BuildingQuery

namespace Input

/-- How many references of an element lead to a classification with the key; a reference that is
listed twice counts twice. -/
def timesClassified (i : Input) (key : String) (id : Int) : Nat :=
  match i.classifications with
  | none => 0
  | some c => ((c.byElement.get? id).getD []).countP fun r =>
      (c.resolve? r).any fun x => x.system ++ ":" ++ x.code == key

variable {i : Input} {h : Hierarchy}

theorem count_classificationKeys (places : Placements) (joins : Joins) (id : Int) (e : Entity)
    (key : String) :
    (i.record h places joins id e).classificationKeys.count key = i.timesClassified key id := by
  rw [timesClassified, Element.classificationKeys, record]
  cases i.classifications with
  | none => rfl
  | some c =>
    have hcount : ∀ rs : List Int,
        ((rs.filterMap c.resolve?).map fun x => x.system ++ ":" ++ x.code).count key =
          rs.countP fun r => (c.resolve? r).any fun x => x.system ++ ":" ++ x.code == key := by
      intro rs
      rw [List.count_eq_countP, List.countP_map, List.countP_filterMap]
      refine List.countP_congr fun r _ => ?_
      cases c.resolve? r <;> simp
    exact hcount _

/-- No id comes twice in a group of a type, a storey or a material. In the group of a classification
an id comes once for each reference of its element that leads there; so it has every id once exactly
if no element has two such references. -/
theorem lookups_repeat_iff (i : Input) (h : Hierarchy) (hn : i.graph.entities.keys.Nodup) :
    (∀ m ∈ [(i.index h).byType, (i.index h).byStorey, (i.index h).byMaterial],
      ∀ p ∈ m, p.2.Nodup) ∧
    ∀ p ∈ (i.index h).byClassification,
      (∀ id ∈ (i.index h).ids, p.2.count id = i.timesClassified p.1 id) ∧
      (p.2.Nodup ↔ ∀ id ∈ (i.index h).ids, i.timesClassified p.1 id ≤ 1) := by
  have htallied := (i.index_built h hn).tallied
  have hcoherent := (i.index_coherent h hn).2.2
  constructor
  · intro m hm p hp
    exact htallied.keyed.nodup.sublist (hcoherent.once m hm p hp)
  · intro p hp
    have hids := htallied.keyed.map_id
    have hnodup : ((i.index h).records.map (·.id)).Nodup := hids ▸ htallied.keyed.nodup
    have hgrouped := htallied.byClassification
    have hgroup := hgrouped.get?_of_mem hp
    have hkeys : ∀ e ∈ (i.index h).records,
        e.classificationKeys.count p.1 = i.timesClassified p.1 e.id := by
      intro e he
      obtain ⟨q, -, rfl⟩ := mem_records_index he
      exact count_classificationKeys _ _ q.1 q.2 p.1
    rw [← hids, List.forall_mem_map, List.forall_mem_map, ← hgroup]
    constructor
    · intro e he
      rw [hgrouped.count_id hnodup he, hkeys e he]
    · rw [hgrouped.nodup_group_iff hnodup]
      constructor
      · intro hall e he
        rw [← hkeys e he]
        exact hall e he
      · intro hall e he
        rw [hkeys e he]
        exact hall e he

/-- Two walls, one of which has two references with one code. -/
def doublyClassified : Input where
  graph := {
    entities := [(4, ⟨4, "IfcWall", .positional []⟩), (5, ⟨5, "IfcWall", .positional []⟩)]
    idsByType := [] }
  classifications := some {
    systems := [(40, ⟨"Uniclass", none⟩)]
    references := [(41, ⟨"EF_25", none, some 40⟩), (42, ⟨"EF_25", some "Walls", some 40⟩)]
    byElement := [(4, [41, 42]), (5, [41])] }

theorem lookups_repeat_iff_doublyClassified :
    doublyClassified.graph.entities.keys.Nodup ∧
      ("Uniclass:EF_25", [4, 4, 5]) ∈ (doublyClassified.index wallsAndDoors).byClassification ∧
      doublyClassified.timesClassified "Uniclass:EF_25" 4 = 2 ∧ ¬ [(4 : Int), 4, 5].Nodup := by
  have hn : doublyClassified.graph.entities.keys.Nodup := by decide
  have hp : ("Uniclass:EF_25", [4, 4, 5]) ∈
      (doublyClassified.index wallsAndDoors).byClassification := by decide
  have hids : (doublyClassified.index wallsAndDoors).ids = [4, 5] := by decide
  obtain ⟨hcount, hnodup⟩ := (lookups_repeat_iff doublyClassified wallsAndDoors hn).2 _ hp
  rw [hids] at hcount hnodup
  have htimes := hcount 4 List.mem_cons_self
  refine ⟨hn, hp, htimes.symm, fun honce => ?_⟩
  have hle := hnodup.mp honce 4 List.mem_cons_self
  rw [← htimes] at hle
  exact absurd hle (by decide)

/-- One element is listed twice under a classification. -/
theorem classified_listed_twice :
    (doublyClassified.index wallsAndDoors).byType = [("IfcWall", [4, 5])] ∧
      (doublyClassified.index wallsAndDoors).byClassification =
        [("Uniclass:EF_25", [4, 4, 5])] := ⟨rfl, rfl⟩

end Input

end BuildingQuery
