import Mathlib.Data.List.Chain
import Mathlib.Data.List.Nodup
import Mathlib.Data.List.Perm.Subperm

/-! Walks along a partial function. A walk goes on until there is nothing next, or until what is next
was passed before. From each start there is one walk at most; it passes all that can be reached. -/

namespace BuildingQuery

variable {α : Type} {next : α → Option α} {start x y : α}

/-- Each member is next to the one before it, and none is passed twice. -/
structure Trail (next : α → Option α) (start : α) (passed : List α) : Prop where
  head : passed.head? = some start
  steps : passed.IsChain fun x y => next x = some y
  nodup : passed.Nodup

/-- A trail that cannot go on: what is next to its last member was passed. -/
structure IsWalk (next : α → Option α) (start : α) (walk : List α) : Prop extends
    Trail next start walk where
  ends : ∀ x y, walk.getLast? = some x → next x = some y → y ∈ walk

/-- Two chains from one start go the same way as long as both go on. -/
theorem prefix_or_prefix_of_isChain {l l' : List α} (h : l.IsChain fun x y => next x = some y)
    (h' : l'.IsChain fun x y => next x = some y) (hhead : l.head? = l'.head?) :
    l <+: l' ∨ l' <+: l := by
  induction l generalizing l' with
  | nil => exact .inl List.nil_prefix
  | cons x l ih =>
    cases l' with
    | nil => exact .inr List.nil_prefix
    | cons x' l' =>
      obtain rfl : x = x' := by simpa using hhead
      simp only [List.prefix_cons_inj]
      cases l with
      | nil => exact .inl List.nil_prefix
      | cons y l =>
        cases l' with
        | nil => exact .inr List.nil_prefix
        | cons y' l' =>
          obtain ⟨hy, h⟩ := List.isChain_cons_cons.mp h
          obtain ⟨hy', h'⟩ := List.isChain_cons_cons.mp h'
          exact ih h h' (by simpa using hy.symm.trans hy')

namespace Trail

variable {passed keys : List α}

theorem singleton (next : α → Option α) (start : α) : Trail next start [start] :=
  ⟨rfl, .singleton _, List.nodup_singleton _⟩

theorem ne_nil (h : Trail next start passed) : passed ≠ [] := fun hnil => by
  simpa [hnil] using h.head

theorem append_singleton (h : Trail next start passed) (hx : passed.getLast? = some x)
    (hy : next x = some y) (hn : y ∉ passed) : Trail next start (passed ++ [y]) where
  head := by rw [List.head?_append_of_ne_nil _ h.ne_nil, h.head]
  steps := by
    refine h.steps.append (.singleton y) fun x' hx' y' hy' => ?_
    obtain rfl := Option.some.inj (hx.symm.trans hx')
    obtain rfl := Option.some.inj hy'
    exact hy
  nodup := h.nodup.append (List.nodup_singleton y) (by simpa using hn)

/-- Something is next to every member that is followed by another one. -/
theorem mem_of_mem_dropLast (h : Trail next start passed)
    (hk : ∀ x y, next x = some y → x ∈ keys) : ∀ x ∈ passed.dropLast, x ∈ keys := by
  obtain ⟨-, steps, -⟩ := h
  induction passed with
  | nil => simp
  | cons x rest ih =>
    cases rest with
    | nil => simp
    | cons y rest =>
      obtain ⟨hxy, hrest⟩ := List.isChain_cons_cons.mp steps
      rw [List.dropLast_cons_cons]
      exact List.forall_mem_cons.mpr ⟨hk x y hxy, ih hrest⟩

theorem length_le_succ (h : Trail next start passed) (hk : ∀ x y, next x = some y → x ∈ keys) :
    passed.length ≤ keys.length + 1 := by
  have hsub := (h.nodup.sublist (List.dropLast_sublist _)).subperm (h.mem_of_mem_dropLast hk)
  have hle := hsub.length_le
  rw [List.length_dropLast] at hle
  omega

/-- A trail whose last member is a key as well has no more members than there are keys. -/
theorem length_le (h : Trail next start passed) (hk : ∀ x y, next x = some y → x ∈ keys)
    (hx : passed.getLast? = some x) (hlast : x ∈ keys) : passed.length ≤ keys.length := by
  have hmem : passed ⊆ keys := by
    intro z hz
    rw [← List.dropLast_append_getLast? x hx, List.mem_append, List.mem_singleton] at hz
    rcases hz with hz | rfl
    · exact h.mem_of_mem_dropLast hk z hz
    · exact hlast
  exact (h.nodup.subperm hmem).length_le

end Trail

namespace IsWalk

variable {walk walk' : List α}

theorem of_getLast? (h : Trail next start walk) (hx : walk.getLast? = some x)
    (hend : ∀ y, next x = some y → y ∈ walk) : IsWalk next start walk := by
  refine { h with ends := fun x' y hx' hy => ?_ }
  obtain rfl := Option.some.inj (hx.symm.trans hx')
  exact hend y hy

theorem next_mem (h : IsWalk next start walk) (hx : x ∈ walk) (hy : next x = some y) :
    y ∈ walk := by
  obtain ⟨before, after, rfl⟩ := List.append_of_mem hx
  cases after with
  | nil => exact h.ends x y (by simp) hy
  | cons z after =>
    obtain ⟨-, hz, -⟩ := List.isChain_append_cons_cons.mp h.steps
    obtain rfl := Option.some.inj (hy.symm.trans hz)
    simp

/-- A walk passes all that is reached from its start, and nothing else. -/
theorem mem_iff (h : IsWalk next start walk) :
    x ∈ walk ↔ Relation.ReflTransGen (fun x y => next x = some y) start x := by
  obtain ⟨rest, rfl⟩ := List.head?_eq_some_iff.mp h.head
  constructor
  · intro hx
    exact h.steps.induction (Relation.ReflTransGen _ start) _ (fun _ _ hy hr => hr.tail hy)
      (fun _ => .refl) x hx
  · intro hx
    induction hx with
    | refl => exact List.mem_cons_self
    | tail _ hy ih => exact h.next_mem ih hy

theorem eq_of_prefix (h : IsWalk next start walk) (h' : IsWalk next start walk')
    (hp : walk <+: walk') : walk = walk' := by
  obtain ⟨rest, rfl⟩ := hp
  cases rest with
  | nil => simp
  | cons y rest =>
    obtain ⟨x, hx⟩ := Option.isSome_iff_exists.mp (List.getLast?_isSome.mpr h.ne_nil)
    have hy : next x = some y := (List.isChain_append.mp h'.steps).2.2 x hx y rfl
    have hdisjoint := List.disjoint_of_nodup_append h'.nodup
    exact absurd List.mem_cons_self (hdisjoint (h.ends x y hx hy))

theorem unique (h : IsWalk next start walk) (h' : IsWalk next start walk') : walk = walk' := by
  rcases prefix_or_prefix_of_isChain h.steps h'.steps (h.head.trans h'.head.symm) with hp | hp
  · exact h.eq_of_prefix h' hp
  · exact (h'.eq_of_prefix h hp).symm

end IsWalk

end BuildingQuery
