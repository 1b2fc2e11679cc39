import BuildingQuery.Index
import BuildingQuery.Proofs.OrderedMap
import Mathlib.Data.List.Induction

/-! Ids in groups. A group holds the ids of the records that have its key, in the order of the
records, each as often as the record has the key. -/

namespace BuildingQuery

variable {keys : Element → List String} {es : List Element} {m : OrderedMap String (List Int)}

/-- The ids of the records that have a key. -/
def idsWithKey (keys : Element → List String) (es : List Element) (k : String) : List Int :=
  es.flatMap fun e => List.replicate ((keys e).count k) e.id

/-- The map has a group, and no empty one, for each key of the records. -/
structure Grouped (keys : Element → List String) (es : List Element)
    (m : OrderedMap String (List Int)) : Prop where
  keys_nodup : m.keys.Nodup
  nonempty : ∀ p ∈ m, p.2 ≠ []
  group : ∀ k, (m.get? k).getD [] = idsWithKey keys es k

theorem Grouped.nil (keys : Element → List String) : Grouped keys [] [] :=
  ⟨List.nodup_nil, by simp, fun _ => rfl⟩

theorem Grouped.pushAll (h : Grouped keys es m) (e : Element) :
    Grouped keys (es ++ [e]) (m.pushAll (keys e) e.id) := by
  refine ⟨OrderedMap.nodup_pushAll h.keys_nodup (keys e) e.id,
    OrderedMap.ne_nil_of_mem_pushAll h.nonempty (keys e) e.id, fun k => ?_⟩
  rw [OrderedMap.getD_pushAll, h.group, idsWithKey, idsWithKey, List.flatMap_append]
  simp

theorem groupIds_concat (keys : Element → List String) (es : List Element) (e : Element) :
    groupIds keys (es ++ [e]) = (groupIds keys es).pushAll (keys e) e.id := by
  rw [groupIds, List.foldl_append]
  rfl

theorem groupIds_grouped (keys : Element → List String) (es : List Element) :
    Grouped keys es (groupIds keys es) := by
  induction es using List.reverseRecOn with
  | nil => exact Grouped.nil keys
  | append_singleton es e ih =>
    rw [groupIds_concat]
    exact ih.pushAll e

theorem Grouped.mem_iff (h : Grouped keys es m) {k : String} {id : Int} :
    id ∈ (m.get? k).getD [] ↔ ∃ e ∈ es, e.id = id ∧ k ∈ keys e := by
  simp only [h.group, idsWithKey, List.mem_flatMap, List.mem_replicate, ne_eq,
    List.count_eq_zero, not_not]
  constructor
  · rintro ⟨e, he, hk, hid⟩
    exact ⟨e, he, hid.symm, hk⟩
  · rintro ⟨e, he, hid, hk⟩
    exact ⟨e, he, hk, hid.symm⟩

theorem Grouped.get?_of_mem (h : Grouped keys es m) {g : String × List Int} (hg : g ∈ m) :
    (m.get? g.1).getD [] = g.2 := by
  rw [(OrderedMap.get?_eq_some_iff h.keys_nodup).mpr hg, Option.getD_some]

theorem Grouped.eq_of_mem (h : Grouped keys es m) {p : String × List Int} (hp : p ∈ m) :
    p.2 = idsWithKey keys es p.1 := by
  rw [← h.group, h.get?_of_mem hp]

theorem Grouped.ordered (h : Grouped keys es m) (hn : (es.map (·.id)).Nodup) :
    ∀ p ∈ m, p.2.Pairwise fun a b =>
      (es.map (·.id)).idxOf a ≤ (es.map (·.id)).idxOf b := by
  intro p hp
  rw [h.eq_of_mem hp]
  clear h hp
  induction es with
  | nil => exact List.Pairwise.nil
  | cons e es ih =>
    obtain ⟨he, hn⟩ := List.nodup_cons.mp hn
    have hid : ∀ a ∈ idsWithKey keys es p.1, a ∈ es.map (·.id) := by
      intro a ha
      obtain ⟨f, hf, hr⟩ := List.mem_flatMap.mp ha
      exact List.mem_map.mpr ⟨f, hf, (List.eq_of_mem_replicate hr).symm⟩
    -- Behind the first record every place moves on by one.
    have hplace : ∀ a ∈ es.map (·.id),
        ((e :: es).map (·.id)).idxOf a = (es.map (·.id)).idxOf a + 1 := by
      intro a ha
      have hne : e.id ≠ a := by
        rintro rfl
        exact he ha
      rw [List.map_cons, List.idxOf_cons_ne _ hne]
    rw [idsWithKey, List.flatMap_cons, List.pairwise_append]
    refine ⟨?_, ?_, ?_⟩
    · exact List.pairwise_replicate.mpr (.inr (Nat.le_refl _))
    · refine (ih hn).imp_of_mem fun {a b} ha hb hab => ?_
      rw [hplace a (hid a ha), hplace b (hid b hb)]
      omega
    · intro a ha b hb
      rw [List.eq_of_mem_replicate ha, List.map_cons, List.idxOf_cons_self]
      exact Nat.zero_le _

theorem Grouped.sublist (h : Grouped keys es m) (hk : ∀ e ∈ es, (keys e).length ≤ 1) :
    ∀ p ∈ m, p.2.Sublist (es.map (·.id)) := by
  intro p hp
  rw [h.eq_of_mem hp]
  clear h hp
  induction es with
  | nil => exact List.Sublist.slnil
  | cons e es ih =>
    obtain ⟨he, hes⟩ := List.forall_mem_cons.mp hk
    have hc : (keys e).count p.1 ≤ 1 := Nat.le_trans List.count_le_length he
    have hr : (List.replicate ((keys e).count p.1) e.id).Sublist [e.id] :=
      (List.replicate_sublist_replicate e.id).mpr hc
    exact hr.append (ih hes)

theorem Grouped.count_id (h : Grouped keys es m) (hn : (es.map (·.id)).Nodup) {e : Element}
    (he : e ∈ es) (k : String) : List.count e.id ((m.get? k).getD []) = (keys e).count k := by
  rw [h.group]
  clear h
  induction es with
  | nil => simp at he
  | cons f es ih =>
    obtain ⟨hf, hn⟩ := List.nodup_cons.mp hn
    have hnot : ∀ id, id ∉ es.map (·.id) → List.count id (idsWithKey keys es k) = 0 := by
      intro id hid
      refine List.count_eq_zero.mpr fun hmem => hid ?_
      obtain ⟨g, hg, hr⟩ := List.mem_flatMap.mp hmem
      exact List.mem_map.mpr ⟨g, hg, (List.eq_of_mem_replicate hr).symm⟩
    have hcons : idsWithKey keys (f :: es) k =
        List.replicate ((keys f).count k) f.id ++ idsWithKey keys es k := List.flatMap_cons ..
    rw [hcons, List.count_append, List.count_replicate]
    rcases List.mem_cons.mp he with rfl | he
    · simp [hnot e.id hf]
    · have hne : (f.id == e.id) = false := by
        rw [beq_eq_false_iff_ne]
        intro hid
        exact hf (List.mem_map.mpr ⟨e, he, hid.symm⟩)
      simp [hne, ih hn he]

theorem Grouped.nodup_group_iff (h : Grouped keys es m) (hn : (es.map (·.id)).Nodup) (k : String) :
    ((m.get? k).getD []).Nodup ↔ ∀ e ∈ es, (keys e).count k ≤ 1 := by
  rw [List.nodup_iff_count_le_one]
  constructor
  · intro hcount e he
    rw [← h.count_id hn he]
    exact hcount e.id
  · intro hkeys id
    by_cases hmem : id ∈ (m.get? k).getD []
    · obtain ⟨e, he, rfl, -⟩ := h.mem_iff.mp hmem
      rw [h.count_id hn he]
      exact hkeys e he
    · rw [List.count_eq_zero.mpr hmem]
      exact Nat.zero_le 1

end BuildingQuery
