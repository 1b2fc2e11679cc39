import BuildingQuery.Proofs.Condition.Tree

/-! A condition tree as a propositional formula over its leaves. Trying members one after the other
and stopping early gives the value of the formula, provided that no leaf fails. -/

namespace BuildingQuery

namespace Condition

mutual

/-- The value of the formula when its leaves have the given values. -/
def truth (v : Condition → Bool) : Condition → Bool
  | group k cs => k.value (truths v cs)
  | c => v c

def truths (v : Condition → Bool) : List Condition → List Bool
  | [] => []
  | c :: cs => truth v c :: truths v cs

end

variable {ix : Option Index} {e : Element} {v w : Condition → Bool}

theorem truths_eq_map (v : Condition → Bool) (cs : List Condition) :
    truths v cs = cs.map (truth v) := by
  induction cs with
  | nil => rfl
  | cons c cs ih => simp only [truths, List.map_cons, ih]

theorem truth_group (v : Condition → Bool) (k : GroupKind) (cs : List Condition) :
    (group k cs).truth v = k.value (cs.map (truth v)) := by
  simp only [truth, truths_eq_map]

theorem truth_of_isLeaf {c : Condition} (h : c.isLeaf = true) : c.truth v = v c := by
  cases c with
  | group k cs => simp [isLeaf] at h
  | _ => simp only [truth]

theorem truth_congr {c : Condition} (h : ∀ l ∈ c.leaves, v l = w l) : c.truth v = c.truth w := by
  induction c using tree_induction with
  | leaf c hc =>
    rw [truth_of_isLeaf hc, truth_of_isLeaf hc]
    exact h c (by simp [leaves_of_isLeaf hc])
  | group k cs ih =>
    have hm : cs.map (truth v) = cs.map (truth w) :=
      List.map_congr_left fun c hc => ih c hc fun l hl => h l (mem_leaves_group.mpr ⟨c, hc, hl⟩)
    rw [truth_group, truth_group, hm]

/-- Neither the order of members counts nor how often they come. -/
theorem truth_group_members {cs ds : List Condition} (h : ∀ c, c ∈ cs ↔ c ∈ ds) (k : GroupKind) :
    (group k cs).truth v = (group k ds).truth v := by
  have hall : cs.all (truth v) = ds.all (truth v) := by
    rw [Bool.eq_iff_iff, List.all_eq_true, List.all_eq_true]
    simp only [h]
  have hany : cs.any (truth v) = ds.any (truth v) := by
    rw [Bool.eq_iff_iff, List.any_eq_true, List.any_eq_true]
    simp only [h]
  cases k <;> simp [truth_group, GroupKind.value, List.all_map, List.any_map, hall, hany]

/-- A group inside a group of its own kind can be opened. -/
theorem truth_group_flatten {k : GroupKind} (hk : k ≠ .none) (pre cs post : List Condition) :
    (group k (pre ++ group k cs :: post)).truth v = (group k (pre ++ cs ++ post)).truth v := by
  cases k with
  | all => simp [truth_group, GroupKind.value]
  | any => simp [truth_group, GroupKind.value]
  | none => exact absurd rfl hk

theorem truth_not_not (c : Condition) :
    (group .none [group .none [c]]).truth v = c.truth v := by
  simp [truth_group, GroupKind.value]

theorem truth_not_any (cs : List Condition) :
    (group .none cs).truth v = (group .all (cs.map fun c => group .none [c])).truth v := by
  simp [truth_group, GroupKind.value, Function.comp_def, List.not_any_eq_all_not]

theorem truth_not_all (cs : List Condition) :
    (group .none [group .all cs]).truth v =
      (group .any (cs.map fun c => group .none [c])).truth v := by
  simp [truth_group, GroupKind.value, Function.comp_def, List.not_all_eq_any_not]

theorem allHold_ok {f : Condition → Bool} {cs : List Condition}
    (h : ∀ c ∈ cs, holds ix e c = .ok (f c)) : allHold ix e cs = .ok (cs.all f) := by
  induction cs with
  | nil => rfl
  | cons c cs ih =>
    have hc := h c List.mem_cons_self
    have hcs := ih fun d hd => h d (List.mem_cons_of_mem _ hd)
    rw [allHold, hc]
    cases hf : f c
    · simp [bind, Except.bind, pure, Except.pure, hf]
    · simp [bind, Except.bind, hcs, hf]

theorem anyHolds_ok {f : Condition → Bool} {cs : List Condition}
    (h : ∀ c ∈ cs, holds ix e c = .ok (f c)) : anyHolds ix e cs = .ok (cs.any f) := by
  induction cs with
  | nil => rfl
  | cons c cs ih =>
    have hc := h c List.mem_cons_self
    have hcs := ih fun d hd => h d (List.mem_cons_of_mem _ hd)
    rw [anyHolds, hc]
    cases hf : f c
    · simp [bind, Except.bind, hcs, hf]
    · simp [bind, Except.bind, pure, Except.pure, hf]

theorem holds_group_ok {f : Condition → Bool} {k : GroupKind} {cs : List Condition}
    (h : ∀ c ∈ cs, holds ix e c = .ok (f c)) :
    holds ix e (group k cs) = .ok (k.value (cs.map f)) := by
  cases k with
  | all => simp [holds, allHold_ok h, GroupKind.value, List.all_map]
  | any => simp [holds, anyHolds_ok h, GroupKind.value, List.any_map]
  | none =>
    simp [holds, anyHolds_ok h, GroupKind.value, List.any_map, bind, Except.bind, pure, Except.pure]

/-- Whether a condition holds when it is tested alone. -/
def isMetBy (ix : Option Index) (e : Element) (c : Condition) : Bool :=
  match c.holds ix e with
  | .ok b => b
  | .error _ => false

theorem isMetBy_of_ok {c : Condition} {b : Bool} (h : c.holds ix e = .ok b) :
    c.isMetBy ix e = b := by
  simp only [isMetBy, h]

/-- No leaf of the tree fails on the element. -/
def Steady (ix : Option Index) (e : Element) (c : Condition) : Prop :=
  ∀ l ∈ c.leaves, ∃ b, l.holds ix e = .ok b

theorem holds_eq_truth {c : Condition} (h : c.Steady ix e) :
    c.holds ix e = .ok (c.truth (isMetBy ix e)) := by
  induction c using tree_induction with
  | leaf c hc =>
    obtain ⟨b, hb⟩ := h c (by simp [leaves_of_isLeaf hc])
    rw [truth_of_isLeaf hc, isMetBy_of_ok hb, hb]
  | group k cs ih =>
    rw [truth_group]
    exact holds_group_ok fun c hc =>
      ih c hc fun l hl => h l (mem_leaves_group.mpr ⟨c, hc, hl⟩)

end Condition

end BuildingQuery
