import BuildingQuery.OrderedMap
import BuildingQuery.Proofs.First
import Mathlib.Data.List.Induction
import Mathlib.Data.List.Nodup

/-! Reading maps that entries were put into: what is found under a key, and which keys there are. A
map to which only new keys were added, or whose keys took new values, has every key once. -/

namespace BuildingQuery.OrderedMap

variable {κ α : Type}

theorem keys_append (m m' : OrderedMap κ α) : keys (m ++ m') = m.keys ++ m'.keys := by
  simp [keys]

theorem keys_filterMap_sublist {β : Type} {f : β → Option (κ × α)} {key : β → κ}
    (h : ∀ b e, f b = some e → e.1 = key b) (bs : List β) :
    (keys (bs.filterMap f)).Sublist (bs.map key) := by
  induction bs with
  | nil => exact .slnil
  | cons b bs ih =>
    cases hb : f b with
    | none =>
      rw [List.filterMap_cons_none hb]
      exact ih.cons _
    | some e =>
      rw [List.filterMap_cons_some hb, keys, List.map_cons, List.map_cons, h b e hb]
      exact ih.cons_cons _

variable [BEq κ] {m : OrderedMap κ α} {j k : κ} {x : α}

theorem get?_cons (l : κ) (y : α) (m : OrderedMap κ α) (k : κ) :
    get? ((l, y) :: m) k = if k == l then some y else m.get? k := by
  rw [get?, List.lookup_cons]
  cases k == l <;> rfl

theorem get?_append_cons (pre post : OrderedMap κ α) (l : κ) (y : α) (k : κ) :
    get? (pre ++ (l, y) :: post) k = (pre.get? k).or (if k == l then some y else post.get? k) := by
  rw [← get?_cons, get?, List.lookup_append]
  rfl

theorem exists_mem_of_get? (h : m.get? k = some x) : ∃ l, (l, x) ∈ m := by
  induction m with
  | nil => simp [get?] at h
  | cons p m ih =>
    obtain ⟨l, y⟩ := p
    rw [get?_cons] at h
    split at h
    · obtain rfl := Option.some.inj h
      exact ⟨l, List.mem_cons_self⟩
    · obtain ⟨l, hl⟩ := ih h
      exact ⟨l, List.mem_cons_of_mem _ hl⟩

theorem put_of_forall_ne (h : ∀ p ∈ m, (k == p.1) = false) : m.put k x = m ++ [(k, x)] := by
  induction m with
  | nil => rfl
  | cons p m ih =>
    obtain ⟨hp, hm⟩ := List.forall_mem_cons.mp h
    simp only [put, hp, ih hm, List.cons_append, Bool.false_eq_true, if_false]

/-- Entries no two of which have the same key are a map as they are. -/
theorem ofList_of_pairwise {es : List (κ × α)}
    (h : es.Pairwise fun e f => (f.1 == e.1) = false) : ofList es = es := by
  have hs : ∀ m : OrderedMap κ α, List.Pairwise (fun e f => (f.1 == e.1) = false) (m ++ es) →
      es.foldl (fun m e => m.put e.1 e.2) m = m ++ es := by
    clear h
    induction es with
    | nil => simp
    | cons e es ih =>
      intro m h
      have hm : ∀ p ∈ m, (e.1 == p.1) = false :=
        fun p hp => (List.pairwise_append.mp h).2.2 p hp e List.mem_cons_self
      have happ : m ++ e :: es = (m ++ [e]) ++ es := by simp
      rw [List.foldl_cons, put_of_forall_ne hm, happ]
      exact ih _ (happ ▸ h)
  exact hs [] h

theorem mem_put {p : κ × α} (h : p ∈ m.put k x) : p ∈ m ∨ p.2 = x := by
  induction m with
  | nil => exact .inr (congrArg Prod.snd (List.mem_singleton.mp h))
  | cons q m ih =>
    rw [put] at h
    split at h
    · rcases List.mem_cons.mp h with rfl | h
      · exact .inr rfl
      · exact .inl (List.mem_cons_of_mem _ h)
    · rcases List.mem_cons.mp h with rfl | h
      · exact .inl List.mem_cons_self
      · exact (ih h).imp_left (List.mem_cons_of_mem _)

/-- What holds of the values of two maps holds of those of both together. -/
theorem forall_mem_putAll {P : α → Prop} {m m' : OrderedMap κ α} (h : ∀ p ∈ m, P p.2)
    (h' : ∀ p ∈ m', P p.2) : ∀ p ∈ m.putAll m', P p.2 := by
  induction m' generalizing m with
  | nil => exact h
  | cons e es ih =>
    obtain ⟨he, hes⟩ := List.forall_mem_cons.mp h'
    refine ih (fun p hp => ?_) hes
    rcases mem_put hp with hp | hp
    · exact h p hp
    · exact hp ▸ he

/-- What holds of the values of all entries holds of those of the map. -/
theorem forall_mem_ofList {P : α → Prop} {es : List (κ × α)} (h : ∀ e ∈ es, P e.2) :
    ∀ p ∈ ofList es, P p.2 := forall_mem_putAll (m := []) (by simp) h

theorem mapValues_put {β : Type} (f : α → β) (m : OrderedMap κ α) (k : κ) (x : α) :
    mapValues f (m.put k x) = put (mapValues f m) k (f x) := by
  induction m with
  | nil => rfl
  | cons p m ih =>
    have hcons : mapValues f (p :: m) = (p.1, f p.2) :: mapValues f m := rfl
    rw [hcons, put, put]
    split
    · rfl
    · rw [← ih]
      rfl

section Keys

variable {ι : Type} [BEq ι] {f : ι → κ}

theorem put_map_key (hf : ∀ i j, (f i == f j) = (i == j)) (m : OrderedMap ι α) (i : ι) (x : α) :
    put (List.map (fun e => (f e.1, e.2)) m) (f i) x =
      List.map (fun e => (f e.1, e.2)) (m.put i x) := by
  induction m with
  | nil => rfl
  | cons p m ih =>
    rw [List.map_cons, put, put, hf, ih]
    split <;> rfl

/-- Keys that are told apart alike give the same map. -/
theorem ofList_map_key (hf : ∀ i j, (f i == f j) = (i == j)) (es : List (ι × α)) :
    ofList (es.map fun e => (f e.1, e.2)) = List.map (fun e => (f e.1, e.2)) (ofList es) := by
  have hs : ∀ m : OrderedMap ι α,
      es.foldl (fun m e => put m (f e.1) e.2) (List.map (fun e => (f e.1, e.2)) m) =
        List.map (fun e => (f e.1, e.2)) (es.foldl (fun m e => put m e.1 e.2) m) := by
    induction es with
    | nil => exact fun _ => rfl
    | cons e es ih => exact fun m => by rw [List.foldl_cons, put_map_key hf, ih, List.foldl_cons]
  rw [ofList, List.foldl_map]
  exact hs []

end Keys

theorem putAll_append_singleton (m : OrderedMap κ α) (es : List (κ × α)) (e : κ × α) :
    m.putAll (es ++ [e]) = (m.putAll es).put e.1 e.2 := List.foldl_concat ..

/-- A key that is the same as no other one. -/
structure IsDistinct (k : κ) : Prop where
  beq_iff : ∀ l, (k == l) = true ↔ l = k
  eq_iff_of_beq : ∀ i j, (i == j) = true → (i = k ↔ j = k)

namespace IsDistinct

theorem get?_put_self (h : IsDistinct k) (m : OrderedMap κ α) (x : α) :
    (m.put k x).get? k = some x := by
  induction m with
  | nil => rw [put, get?_cons, if_pos ((h.beq_iff k).mpr rfl)]
  | cons p m ih =>
    rw [put]
    split
    case isTrue hp => rw [get?_cons, if_pos hp]
    case isFalse hp => rw [get?_cons, if_neg hp, ih]

theorem get?_put_of_ne (h : IsDistinct k) (m : OrderedMap κ α) (x : α) (hne : j ≠ k) :
    (m.put j x).get? k = m.get? k := by
  induction m with
  | nil => rw [put, get?_cons, if_neg (mt (h.beq_iff j).mp hne)]
  | cons p m ih =>
    rw [put]
    split
    case isTrue hj =>
      have hp : ¬ (k == p.1) = true :=
        fun hk => hne ((h.eq_iff_of_beq j p.1 hj).mpr ((h.beq_iff p.1).mp hk))
      rw [get?_cons, get?_cons, if_neg hp, if_neg hp]
    case isFalse => rw [get?_cons, get?_cons, ih]

/-- Of the entries put into a map the last one of a key counts. -/
theorem get?_putAll_eq_some_iff (h : IsDistinct k) (m : OrderedMap κ α) (es : List (κ × α)) (x : α) :
    (m.putAll es).get? k = some x ↔
      LastAt (fun e => e.1 ≠ k) (fun e => e = (k, x)) es ∨
        (∀ e ∈ es, e.1 ≠ k) ∧ m.get? k = some x := by
  induction es using List.reverseRecOn with
  | nil => simp [not_lastAt_nil, putAll]
  | append_singleton es e ih =>
    obtain ⟨j, y⟩ := e
    rw [putAll_append_singleton, lastAt_append_singleton]
    by_cases hj : j = k
    · subst hj
      have hmem : ¬ ∀ e ∈ es ++ [(j, y)], e.1 ≠ j := fun hall => hall (j, y) (by simp) rfl
      rw [h.get?_put_self, or_iff_left fun hall => hmem hall.1]
      simp
    · rw [h.get?_put_of_ne _ _ hj, ih]
      simp [hj, or_imp, forall_and]

theorem get?_putAll_eq_none_iff (h : IsDistinct k) (m : OrderedMap κ α) (es : List (κ × α)) :
    (m.putAll es).get? k = none ↔ (∀ e ∈ es, e.1 ≠ k) ∧ m.get? k = none := by
  induction es using List.reverseRecOn with
  | nil => simp [putAll]
  | append_singleton es e ih =>
    obtain ⟨j, y⟩ := e
    rw [putAll_append_singleton]
    by_cases hj : j = k
    · subst hj
      have hmem : ¬ ∀ e ∈ es ++ [(j, y)], e.1 ≠ j := fun hall => hall (j, y) (by simp) rfl
      rw [h.get?_put_self]
      exact iff_of_false nofun fun hall => hmem hall.1
    · rw [h.get?_put_of_ne _ _ hj, ih]
      simp [hj, or_imp, forall_and]

end IsDistinct

variable [LawfulBEq κ]

theorem mem_of_get? (h : m.get? k = some x) : (k, x) ∈ m := by
  induction m with
  | nil => simp [get?] at h
  | cons p m ih =>
    obtain ⟨l, y⟩ := p
    rw [get?_cons] at h
    by_cases hk : k = l
    · subst hk
      simp_all
    · have hb : (k == l) = false := by simpa using hk
      rw [hb, if_neg Bool.false_ne_true] at h
      exact List.mem_cons_of_mem _ (ih h)

theorem get?_of_not_mem (h : k ∉ m.keys) : m.get? k = none := by
  cases hg : m.get? k with
  | none => rfl
  | some x => exact absurd (List.mem_map.mpr ⟨_, mem_of_get? hg, rfl⟩) h

theorem isSome_get?_iff : (m.get? k).isSome = true ↔ k ∈ m.keys := by
  rw [get?, List.lookup_isSome_iff, keys, List.mem_map]
  refine exists_congr fun p => and_congr_right fun _ => ?_
  rw [beq_iff_eq, eq_comm]

theorem isDistinct (k : κ) : IsDistinct k :=
  ⟨fun l => by rw [beq_iff_eq, eq_comm], fun i j h => by rw [eq_of_beq h]⟩

theorem get?_put_self (m : OrderedMap κ α) (k : κ) (x : α) : (m.put k x).get? k = some x :=
  (isDistinct k).get?_put_self m x

theorem get?_put_of_ne (m : OrderedMap κ α) (x : α) (h : j ≠ k) :
    (m.put k x).get? j = m.get? j := (isDistinct j).get?_put_of_ne m x h.symm

theorem put_of_not_mem (h : k ∉ m.keys) : m.put k x = m ++ [(k, x)] := by
  refine put_of_forall_ne fun p hp => ?_
  have hne : k ≠ p.1 := fun hk => h (hk ▸ List.mem_map.mpr ⟨p, hp, rfl⟩)
  simpa using hne

theorem keys_put_of_mem (h : k ∈ m.keys) : (m.put k x).keys = m.keys := by
  induction m with
  | nil => simp [keys] at h
  | cons p m ih =>
    obtain ⟨l, y⟩ := p
    by_cases hl : k = l
    · subst hl
      simp [put, keys]
    · have hb : (k == l) = false := by simpa using hl
      have hm : k ∈ keys m := by simpa [keys, hl] using h
      have hkeys := ih hm
      simp only [put, hb, keys, List.map_cons, Bool.false_eq_true, if_false] at hkeys ⊢
      rw [hkeys]

theorem mem_keys_put : j ∈ (m.put k x).keys ↔ j ∈ m.keys ∨ j = k := by
  by_cases h : k ∈ m.keys
  · rw [keys_put_of_mem h]
    constructor
    · exact .inl
    · rintro (hj | rfl)
      · exact hj
      · exact h
  · rw [put_of_not_mem h, keys_append, List.mem_append]
    simp [keys]

theorem nodup_put (h : m.keys.Nodup) : (m.put k x).keys.Nodup := by
  by_cases hk : k ∈ m.keys
  · rwa [keys_put_of_mem hk]
  · rw [put_of_not_mem hk, keys_append]
    exact h.append (by simp [keys]) (by simpa [keys] using hk)

theorem nodup_putAll {m m' : OrderedMap κ α} (h : m.keys.Nodup) : (m.putAll m').keys.Nodup := by
  induction m' generalizing m with
  | nil => exact h
  | cons e es ih => exact ih (nodup_put h)

theorem nodup_ofList (entries : List (κ × α)) : (ofList entries).keys.Nodup :=
  nodup_putAll (m := []) List.nodup_nil

section OfList

variable {es : List (κ × α)}

omit [LawfulBEq κ] in
theorem ofList_append_singleton (es : List (κ × α)) (e : κ × α) :
    ofList (es ++ [e]) = (ofList es).put e.1 e.2 := putAll_append_singleton [] es e

theorem mem_keys_ofList : k ∈ (ofList es).keys ↔ ∃ e ∈ es, e.1 = k := by
  induction es using List.reverseRecOn with
  | nil => simp [ofList, keys]
  | append_singleton es e ih =>
    rw [ofList_append_singleton, mem_keys_put, ih]
    simp [or_and_right, exists_or, eq_comm (a := k)]

/-- Of the values of a key the last counts. -/
theorem get?_ofList_eq_some_iff :
    (ofList es).get? k = some x ↔ LastAt (fun e => e.1 ≠ k) (fun e => e = (k, x)) es := by
  have hiff := (isDistinct k).get?_putAll_eq_some_iff [] es x
  have hnil : get? ([] : OrderedMap κ α) k = none := rfl
  rwa [hnil, and_iff_right_iff_imp.mpr nofun, or_iff_left nofun] at hiff

theorem mem_of_get?_ofList (h : (ofList es).get? k = some x) : (k, x) ∈ es := by
  obtain ⟨pre, e, post, rfl, rfl, -⟩ := get?_ofList_eq_some_iff.mp h
  simp

end OfList

theorem get?_putEach (m : OrderedMap κ α) (ks : List κ) (x : α) (j : κ) :
    (m.putEach ks x).get? j = if j ∈ ks then some x else m.get? j := by
  induction ks generalizing m with
  | nil => simp [putEach]
  | cons k ks ih =>
    have hs := ih (m.put k x)
    simp only [putEach, List.foldl_cons] at hs ⊢
    rw [hs]
    by_cases hk : j = k
    · subst hk
      simp [get?_put_self]
    · rw [get?_put_of_ne m x hk]
      simp [hk]

/-- Of two maps the second counts, if it has the key. -/
theorem get?_putAll (m : OrderedMap κ α) {m' : OrderedMap κ α} (h : m'.keys.Nodup) (j : κ) :
    (m.putAll m').get? j = (m'.get? j).or (m.get? j) := by
  induction m' generalizing m with
  | nil => rfl
  | cons p m' ih =>
    obtain ⟨k, x⟩ := p
    obtain ⟨hk, hm⟩ : k ∉ keys m' ∧ (keys m').Nodup := by simpa [keys] using h
    have hs := ih (m.put k x) hm
    simp only [putAll, List.foldl_cons] at hs ⊢
    rw [hs, get?_cons]
    by_cases hj : j = k
    · subst hj
      rw [get?_of_not_mem hk, get?_put_self]
      simp
    · have hb : (j == k) = false := by simpa using hj
      rw [get?_put_of_ne m x hj, hb, if_neg Bool.false_ne_true]

theorem get?_eq_some_iff (h : m.keys.Nodup) : m.get? k = some x ↔ (k, x) ∈ m := by
  induction m with
  | nil => simp [get?]
  | cons p m ih =>
    obtain ⟨l, y⟩ := p
    obtain ⟨hl, hm⟩ : l ∉ keys m ∧ (keys m).Nodup := by simpa [keys] using h
    by_cases hk : k = l
    · subst hk
      have hx : (k, x) ∉ m := fun hx => hl (List.mem_map.mpr ⟨_, hx, rfl⟩)
      simp [get?_cons, hx, eq_comm]
    · have hb : (k == l) = false := by simpa using hk
      simp [get?_cons, hb, hk, ih hm]

section Filter

end Filter

section Push

variable {m : OrderedMap κ (List α)}

theorem get?_push_self (m : OrderedMap κ (List α)) (k : κ) (x : α) :
    (m.push k x).get? k = some ((m.get? k).getD [] ++ [x]) := get?_put_self m k _

theorem get?_push_of_ne (m : OrderedMap κ (List α)) (x : α) (h : j ≠ k) :
    (m.push k x).get? j = m.get? j := get?_put_of_ne m _ h

theorem getD_pushAll (m : OrderedMap κ (List α)) (ks : List κ) (x : α) (j : κ) :
    ((m.pushAll ks x).get? j).getD [] =
      (m.get? j).getD [] ++ List.replicate (ks.count j) x := by
  induction ks generalizing m with
  | nil => simp [pushAll]
  | cons k ks ih =>
    have hs := ih (m.push k x)
    simp only [pushAll, List.foldl_cons] at hs ⊢
    rw [hs]
    by_cases hj : j = k
    · subst hj
      simp [get?_push_self, List.replicate_succ]
    · have hk : k ≠ j := fun h => hj h.symm
      rw [get?_push_of_ne m x hj, List.count_cons_of_ne hk]

theorem nodup_push (h : m.keys.Nodup) : (m.push k x).keys.Nodup := nodup_put h

theorem nodup_pushAll (hn : m.keys.Nodup) (ks : List κ) (x : α) :
    (m.pushAll ks x).keys.Nodup := by
  induction ks generalizing m with
  | nil => exact hn
  | cons k ks ih => exact ih (nodup_push hn)

theorem keys_pushAll (m : OrderedMap κ (List α)) (ks : List κ) (x : α) :
    ∃ new : List κ, (m.pushAll ks x).keys = m.keys ++ new ∧
      ∀ k, k ∈ new ↔ k ∈ ks ∧ k ∉ m.keys := by
  induction ks generalizing m with
  | nil => exact ⟨[], by simp [pushAll], by simp⟩
  | cons k ks ih =>
    obtain ⟨new, hkeys, hnew⟩ := ih (m.push k x)
    have hpush : m.pushAll (k :: ks) x = (m.push k x).pushAll ks x := rfl
    by_cases hk : k ∈ m.keys
    · have hm : (m.push k x).keys = m.keys := keys_put_of_mem hk
      rw [hm] at hkeys hnew
      refine ⟨new, by rw [hpush, hkeys], fun l => ?_⟩
      rw [hnew, List.mem_cons]
      constructor
      · rintro ⟨hl, hlm⟩
        exact ⟨.inr hl, hlm⟩
      · rintro ⟨rfl | hl, hlm⟩
        · exact absurd hk hlm
        · exact ⟨hl, hlm⟩
    · have hm : (m.push k x).keys = m.keys ++ [k] := by
        rw [push, put_of_not_mem hk, keys_append]
        rfl
      rw [hm] at hkeys hnew
      refine ⟨k :: new, by rw [hpush, hkeys, List.append_assoc]; rfl, fun l => ?_⟩
      rw [List.mem_cons, hnew, List.mem_cons, List.mem_append, List.mem_singleton]
      by_cases hl : l = k
      · subst hl
        simp [hk]
      · simp [hl]

/-- A member goes to the end of the groups there are, and into new groups behind them. -/
theorem pushAll_eq (hn : m.keys.Nodup) (ks : List κ) (x : α) :
    ∃ new : List κ, new.Nodup ∧ (∀ k, k ∈ new ↔ k ∈ ks ∧ k ∉ m.keys) ∧
      m.pushAll ks x = List.map (fun g => (g.1, g.2 ++ List.replicate (ks.count g.1) x)) m ++
        new.map fun k => (k, List.replicate (ks.count k) x) := by
  obtain ⟨new, hkeys, hnew⟩ := keys_pushAll m ks x
  have hn' := nodup_pushAll hn ks x
  refine ⟨new, (hkeys ▸ hn').of_append_right, hnew, ?_⟩
  -- Every key stands once, so that the map is known by what is found under its keys.
  have hgroup : ∀ g ∈ m.pushAll ks x,
      (g.1, (m.get? g.1).getD [] ++ List.replicate (ks.count g.1) x) = g := by
    intro g hg
    rw [← getD_pushAll, (get?_eq_some_iff hn').mpr hg, Option.getD_some]
  have hmap : m.pushAll ks x = (m.pushAll ks x).keys.map fun k =>
      (k, (m.get? k).getD [] ++ List.replicate (ks.count k) x) := by
    rw [keys, List.map_map]
    exact ((List.map_congr_left hgroup).trans (List.map_id _)).symm
  rw [hmap, hkeys, List.map_append]
  congr 1
  · rw [keys, List.map_map]
    refine List.map_congr_left fun g hg => ?_
    rw [Function.comp_apply, (get?_eq_some_iff hn).mpr hg, Option.getD_some]
  · refine List.map_congr_left fun k hk => ?_
    rw [get?_of_not_mem ((hnew k).mp hk).2, Option.getD_none, List.nil_append]

omit [LawfulBEq κ] in
theorem ne_nil_of_mem_push (h : ∀ p ∈ m, p.2 ≠ []) : ∀ p ∈ m.push k x, p.2 ≠ [] := by
  have hs : ∀ y : List α, y ≠ [] → ∀ p ∈ m.put k y, p.2 ≠ [] := by
    intro y hy
    induction m with
    | nil => simpa [put] using hy
    | cons p m ih =>
      obtain ⟨l, z⟩ := p
      obtain ⟨hz, hm⟩ := List.forall_mem_cons.mp h
      rw [put]
      split
      · exact List.forall_mem_cons.mpr ⟨hy, hm⟩
      · exact List.forall_mem_cons.mpr ⟨hz, ih hm⟩
  exact hs _ (by simp)

omit [LawfulBEq κ] in
theorem ne_nil_of_mem_pushAll (h : ∀ p ∈ m, p.2 ≠ []) (ks : List κ) (x : α) :
    ∀ p ∈ m.pushAll ks x, p.2 ≠ [] := by
  induction ks generalizing m with
  | nil => exact h
  | cons k ks ih => exact ih (ne_nil_of_mem_push h)

/-- A member that is added to a group is one more member of all groups together. -/
theorem flatMap_push_perm (m : OrderedMap κ (List α)) (k : κ) (x : α) :
    ((m.push k x).flatMap (·.2)).Perm (m.flatMap (·.2) ++ [x]) := by
  induction m with
  | nil => simp [push, put, get?]
  | cons p m ih =>
    obtain ⟨l, y⟩ := p
    by_cases hl : k = l
    · subst hl
      have hs : push ((k, y) :: m) k x = (k, y ++ [x]) :: m := by
        simp [push, put, get?_cons]
      rw [hs]
      have hx : ([x] ++ m.flatMap (·.2)).Perm (m.flatMap (·.2) ++ [x]) := List.perm_append_comm
      simpa using hx.append_left y
    · have hb : (k == l) = false := by simpa using hl
      have hs : push ((l, y) :: m) k x = (l, y) :: push m k x := by
        simp [push, put, get?_cons, hb]
      rw [hs]
      simpa using ih.append_left y

theorem nodup_foldl_push (h : m.keys.Nodup) (ps : List (α × κ)) :
    (keys (ps.foldl (fun m p => m.push p.2 p.1) m)).Nodup := by
  induction ps generalizing m with
  | nil => exact h
  | cons p ps ih => exact ih (nodup_push h)

/-- Members that are added to groups are all in the groups together. -/
theorem flatMap_foldl_push_perm (m : OrderedMap κ (List α)) (ps : List (α × κ)) :
    ((ps.foldl (fun m p => m.push p.2 p.1) m).flatMap (·.2)).Perm
      (m.flatMap (·.2) ++ ps.map (·.1)) := by
  induction ps generalizing m with
  | nil => simp
  | cons p ps ih =>
    have hpush := (flatMap_push_perm m p.2 p.1).append_right (ps.map (·.1))
    rw [List.append_assoc] at hpush
    exact (ih _).trans hpush

end Push

end BuildingQuery.OrderedMap
