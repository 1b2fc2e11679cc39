import BuildingQuery.Proofs.Condition.Tree
import BuildingQuery.Proofs.Index.Keys
import BuildingQuery.Proofs.Selection.Scan

/-! What the test of an element reads of an index: the records that relationships of the element
lead to, and these only where a type or a name is asked of them. So the records of an index can be
tested in shards, each beside any index that has the records its relationships lead to. -/

namespace BuildingQuery

/-- What a test finds under an id; without an index it finds nothing. -/
def Index.found? (ix : Option Index) (id : Int) : Option Element := ix.bind (·.get? id)

open Index

/-- The ids that a test of relationships looks up. -/
def RelationTest.lookedUp (t : RelationTest) (e : Element) : List Int :=
  if t.target.all (·.isOpen) then [] else e.related t.relation

namespace Condition

def lookedUpByLeaf (e : Element) : Condition → List Int
  | relation t => t.lookedUp e
  | _ => []

def lookedUp (e : Element) (c : Condition) : List Int := c.leaves.flatMap (lookedUpByLeaf e)

/-- No type and no name is asked of a related element. -/
def AsksNoTarget (c : Condition) : Prop := ∀ t, relation t ∈ c.leaves → t.target.all (·.isOpen)

end Condition

/-- The relationships of the element lead to the same records in both indexes. -/
def SameTargets (e : Element) (ix ix' : Option Index) : Prop :=
  ∀ k, ∀ id ∈ e.related k, found? ix id = found? ix' id

section Leaves

variable {e : Element} {ix ix' : Option Index}

theorem RelationTest.holds_congr {t : RelationTest}
    (h : ∀ id ∈ t.lookedUp e, found? ix id = found? ix' id) : t.holds ix e = t.holds ix' e := by
  obtain ⟨k, target⟩ := t
  cases target with
  | none => rfl
  | some target =>
    cases ho : target.isOpen with
    | true => simp only [holds, ho, if_true]
    | false =>
      have hids : ∀ id ∈ e.related k, found? ix id = found? ix' id := by
        simpa [lookedUp, ho] using h
      have hany : ((e.related k).any fun id => (found? ix id).any target.holds) =
          (e.related k).any fun id => (found? ix' id).any target.holds := by
        rw [Bool.eq_iff_iff, List.any_eq_true, List.any_eq_true]
        exact exists_congr fun id => and_congr_right fun hid => by rw [hids id hid]
      simp only [holds, ho, Bool.false_eq_true, if_false]
      exact hany

namespace Condition

theorem holds_leaf_congr {c : Condition} (hc : c.isLeaf = true)
    (h : ∀ id ∈ c.lookedUp e, found? ix id = found? ix' id) : c.holds ix e = c.holds ix' e := by
  have hl : ∀ id ∈ lookedUpByLeaf e c, found? ix id = found? ix' id := by
    simpa [lookedUp, leaves_of_isLeaf hc] using h
  cases c with
  | relation t => simp only [holds, RelationTest.holds_congr hl]
  | group k cs => simp [isLeaf] at hc
  | _ => simp only [holds]

/-- The outcome, a fault included, depends on nothing of the index but the records looked up. -/
theorem holds_congr {c : Condition}
    (h : ∀ id ∈ c.lookedUp e, found? ix id = found? ix' id) : c.holds ix e = c.holds ix' e := by
  induction c using tree_induction with
  | leaf c hc => exact holds_leaf_congr hc h
  | group k cs ih =>
    refine holds_group_congr (List.forall₂_same.mpr fun c hc => ih c hc fun id hid => h id ?_)
    obtain ⟨l, hl, hid⟩ := List.mem_flatMap.mp hid
    exact List.mem_flatMap.mpr ⟨l, mem_leaves_group.mpr ⟨c, hc, hl⟩, hid⟩

theorem exists_related_of_mem_lookedUp {c : Condition} {id : Int} (h : id ∈ c.lookedUp e) :
    ∃ k, id ∈ e.related k := by
  obtain ⟨l, -, hid⟩ := List.mem_flatMap.mp h
  cases l with
  | relation t =>
    rw [lookedUpByLeaf, RelationTest.lookedUp] at hid
    split at hid
    case isTrue => nomatch hid
    case isFalse => exact ⟨t.relation, hid⟩
  | _ => nomatch hid

theorem lookedUp_of_asksNoTarget {c : Condition} (h : c.AsksNoTarget) : c.lookedUp e = [] := by
  rw [lookedUp, List.flatMap_eq_nil_iff]
  intro l hl
  cases l with
  | relation t => rw [lookedUpByLeaf, RelationTest.lookedUp, if_pos (h t hl)]
  | _ => rfl

theorem holds_of_sameTargets (c : Condition) (h : SameTargets e ix ix') :
    c.holds ix e = c.holds ix' e := by
  refine holds_congr fun id hid => ?_
  obtain ⟨k, hk⟩ := exists_related_of_mem_lookedUp hid
  exact h k id hk

theorem holds_of_asksNoTarget {c : Condition} (h : c.AsksNoTarget) :
    c.holds ix e = c.holds ix' e :=
  holds_congr fun id hid => by simp [lookedUp_of_asksNoTarget h] at hid

end Condition

end Leaves

/-- Some records of an index, to be tested beside another one. -/
structure Shard where
  beside : Index
  records : List Element

namespace Shard

/-- The ids of the records of a shard that meet the conditions of a rule. -/
def select (r : Rule) (s : Shard) : Except Fault (List Int) := do
  let found ← s.records.filterM fun e => r.mode.holds (some s.beside) e r.conditions
  return found.map (·.id)

/-- The relationships of its records lead where they lead in the index. -/
def FitsIn (ix : Index) (s : Shard) : Prop :=
  ∀ e ∈ s.records, SameTargets e (some s.beside) (some ix)

end Shard

section Shards

variable {ix : Index} {r : Rule}

theorem Selection.of_eq_select (ix : Index) (r : Rule) :
    Selection.of ix r = (fun ids => ⟨r, ids⟩) <$> Shard.select r ⟨ix, ix.records⟩ := by
  rw [Selection.of, Shard.select]
  cases ix.records.filterM fun e => r.mode.holds (some ix) e r.conditions <;> rfl

namespace Shard

theorem select_of_fitsIn {s : Shard} (h : s.FitsIn ix) :
    select r s = select r ⟨ix, s.records⟩ := by
  have hscan : s.records.filterM (fun e => r.mode.holds (some s.beside) e r.conditions) =
      s.records.filterM fun e => r.mode.holds (some ix) e r.conditions := by
    refine filterM_congr fun e he => ?_
    rw [← r.holds_body, ← r.holds_body]
    exact Condition.holds_of_sameTargets r.body (h e he)
  simp only [select, hscan]

theorem select_append (es fs : List Element) :
    select r ⟨ix, es ++ fs⟩ = do
      let ids ← select r ⟨ix, es⟩
      let more ← select r ⟨ix, fs⟩
      return ids ++ more := by
  simp only [select, filterM_append]
  cases es.filterM fun e => r.mode.holds (some ix) e r.conditions with
  | error f => rfl
  | ok found =>
    cases fs.filterM fun e => r.mode.holds (some ix) e r.conditions with
    | error f => rfl
    | ok more => simp [bind, Except.bind, pure, Except.pure]

theorem select_flatMap {shards : List Shard} (h : ∀ s ∈ shards, s.FitsIn ix) :
    select r ⟨ix, shards.flatMap (·.records)⟩ = List.flatten <$> shards.mapM (select r) := by
  induction shards with
  | nil => rfl
  | cons s shards ih =>
    obtain ⟨hs, hshards⟩ := List.forall_mem_cons.mp h
    rw [List.flatMap_cons, select_append, ih hshards, List.mapM_cons, select_of_fitsIn hs]
    cases select r ⟨ix, s.records⟩ with
    | error f => rfl
    | ok ids => cases shards.mapM (select r) <;> rfl

end Shard

/-- The test of an element is local: its outcome is the same beside all indexes in which the
relationships of the element lead to the same records, and beside every index and none if no target
is asked for. So an index can be cut into shards, whose selections one after the other are its
own. -/
theorem evaluation_local :
    (∀ (c : Condition) (e : Element) (ix ix' : Option Index), SameTargets e ix ix' →
      c.holds ix e = c.holds ix' e) ∧
    (∀ (c : Condition) (e : Element) (ix ix' : Option Index), c.AsksNoTarget →
      c.holds ix e = c.holds ix' e) ∧
    ∀ (ix : Index) (r : Rule) (shards : List Shard), shards.flatMap (·.records) = ix.records →
      (∀ s ∈ shards, s.FitsIn ix) →
      Selection.of ix r = (fun ids => ⟨r, ids.flatten⟩) <$> shards.mapM (Shard.select r) := by
  refine ⟨fun c e ix ix' h => c.holds_of_sameTargets h,
    fun c e ix ix' h => Condition.holds_of_asksNoTarget h, ?_⟩
  intro ix r shards hsplit hfits
  rw [Selection.of_eq_select, ← hsplit, Shard.select_flatMap hfits]
  cases shards.mapM (Shard.select r) <;> rfl

end Shards

/-- A wall, a door in it, and the opening between them. -/
def doorway : Index where
  elements := [
    (1, { Element.plain 1 "IfcWall" with relations := { hasOpenings := [3] } }),
    (2, { Element.plain 2 "IfcDoor" with relations := { fillsOpening := some 3 } }),
    (3, Element.plain 3 "IfcOpeningElement")]
  hierarchy := ⟨[]⟩

def openingAlone : Index where
  elements := [(3, Element.plain 3 "IfcOpeningElement")]
  hierarchy := ⟨[]⟩

def fillsOpening : RelationTest := ⟨.fillsOpening, some ⟨some "IfcOpeningElement", none⟩⟩

/-- Wall and door beside the opening alone, the opening beside the whole index. -/
def doorwayShards : List Shard :=
  [⟨openingAlone, doorway.records.take 2⟩, ⟨doorway, doorway.records.drop 2⟩]

theorem evaluation_local_doorway :
    (∀ e ∈ doorway.records, SameTargets e (some openingAlone) (some doorway) ∧
      (Condition.relation fillsOpening).holds (some openingAlone) e =
        (Condition.relation fillsOpening).holds (some doorway) e) ∧
    (Condition.relation ⟨.hasType, none⟩).AsksNoTarget ∧
    (∀ e, (Condition.relation ⟨.hasType, none⟩).holds (some doorway) e =
      (Condition.relation ⟨.hasType, none⟩).holds none e) ∧
    doorwayShards.flatMap (·.records) = doorway.records ∧
    (∀ s ∈ doorwayShards, s.FitsIn doorway) ∧
    Selection.of doorway (Rule.inline [.relation fillsOpening]) =
      .ok ⟨Rule.inline [.relation fillsOpening], [2]⟩ := by
  obtain ⟨hlocal, hopen, hshards⟩ := evaluation_local
  have hid : ∀ e ∈ doorway.records, ∀ k, ∀ id ∈ e.related k, id = 3 := by
    intro e he k id hid
    simp only [Index.records, OrderedMap.values, doorway, List.map_cons, List.map_nil,
      List.mem_cons, List.not_mem_nil, or_false] at he
    rcases he with rfl | rfl | rfl <;> cases k <;> simp_all [Element.related, Element.plain]
  have hsame : ∀ e ∈ doorway.records, SameTargets e (some openingAlone) (some doorway) := by
    intro e he k id hk
    rw [hid e he k id hk]
    rfl
  have hask : (Condition.relation ⟨.hasType, none⟩).AsksNoTarget := by
    intro t ht
    obtain rfl : t = ⟨.hasType, none⟩ := by simpa [Condition.leaves] using ht
    rfl
  have hfits : ∀ s ∈ doorwayShards, s.FitsIn doorway := by
    refine List.forall_mem_cons.mpr ⟨fun e he => hsame e (List.mem_of_mem_take he), ?_⟩
    exact List.forall_mem_singleton.mpr fun e _ k id _ => rfl
  refine ⟨fun e he => ⟨hsame e he, hlocal _ e _ _ (hsame e he)⟩, hask,
    fun e => hopen _ e _ _ hask, rfl, hfits, ?_⟩
  rw [hshards doorway _ doorwayShards rfl hfits]
  rfl

end BuildingQuery
