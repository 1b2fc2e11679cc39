import BuildingQuery.Proofs.First
import BuildingQuery.Selection

/-! Testing the records of an index one after the other. The scan gives all that pass if no test
fails, and otherwise the fault of the first test that does; it can be cut into scans of parts. -/

namespace BuildingQuery

section Scan

variable {α ε : Type} {p : α → Except ε Bool}

theorem filterAuxM_ok {f : α → Bool} {as : List α} (h : ∀ a ∈ as, p a = .ok (f a))
    (acc : List α) : as.filterAuxM p acc = .ok ((as.filter f).reverse ++ acc) := by
  induction as generalizing acc with
  | nil => rfl
  | cons a as ih =>
    have ha := h a List.mem_cons_self
    have hs := fun acc => ih (fun b hb => h b (List.mem_cons_of_mem _ hb)) acc
    rw [List.filterAuxM, ha]
    cases hf : f a
    · simp [bind, Except.bind, hs, hf]
    · simp [bind, Except.bind, hs, hf]

theorem filterM_ok {f : α → Bool} {as : List α} (h : ∀ a ∈ as, p a = .ok (f a)) :
    as.filterM p = .ok (as.filter f) := by
  simp [List.filterM, filterAuxM_ok h, bind, Except.bind, pure, Except.pure]

/-- A scan that ends well has had an outcome for every member. -/
theorem ok_of_filterM_ok {as bs : List α} (h : as.filterM p = .ok bs) :
    ∀ a ∈ as, ∃ b, p a = .ok b := by
  have hs : ∀ as acc bs : List α, as.filterAuxM p acc = .ok bs →
      ∀ a ∈ as, ∃ b, p a = .ok b := by
    intro as
    induction as with
    | nil => simp
    | cons a as ih =>
      intro acc bs h
      rw [List.filterAuxM] at h
      cases ha : p a with
      | error x => simp [ha, bind, Except.bind] at h
      | ok b =>
        rw [ha] at h
        exact List.forall_mem_cons.mpr ⟨⟨b, ha⟩, ih _ _ h⟩
  cases ha : as.filterAuxM p [] with
  | ok cs => exact hs as [] cs ha
  | error x => simp [List.filterM, ha, bind, Except.bind] at h

theorem filterAuxM_eq_map (as acc : List α) :
    as.filterAuxM p acc = (· ++ acc) <$> as.filterAuxM p [] := by
  induction as generalizing acc with
  | nil => rfl
  | cons a as ih =>
    rw [List.filterAuxM, List.filterAuxM]
    cases p a with
    | error x => rfl
    | ok b =>
      have hacc := ih (cond b (a :: acc) acc)
      have hnil := ih (cond b [a] [])
      simp only [bind, Except.bind] at hacc hnil ⊢
      rw [hacc, hnil]
      cases as.filterAuxM p [] <;> cases b <;> simp [Functor.map, Except.map]

theorem filterM_cons (a : α) (as : List α) :
    (a :: as).filterM p = do
      let b ← p a
      let bs ← as.filterM p
      return if b then a :: bs else bs := by
  rw [List.filterM, List.filterM, List.filterAuxM]
  cases p a with
  | error x => rfl
  | ok b =>
    have hacc := filterAuxM_eq_map (p := p) as (cond b [a] [])
    simp only [bind, Except.bind] at hacc ⊢
    rw [hacc]
    cases as.filterAuxM p [] <;> cases b <;> simp [Functor.map, Except.map, pure, Except.pure]

theorem filterM_congr {q : α → Except ε Bool} {as : List α} (h : ∀ a ∈ as, p a = q a) :
    as.filterM p = as.filterM q := by
  induction as with
  | nil => rfl
  | cons a as ih =>
    obtain ⟨ha, has⟩ := List.forall_mem_cons.mp h
    rw [filterM_cons, filterM_cons, ha, ih has]

theorem filterM_append (as bs : List α) :
    (as ++ bs).filterM p = do
      let cs ← as.filterM p
      let ds ← bs.filterM p
      return cs ++ ds := by
  induction as with
  | nil =>
    have hnil : ([] : List α).filterM p = .ok [] := rfl
    rw [List.nil_append, hnil]
    cases bs.filterM p <;> rfl
  | cons a as ih =>
    rw [List.cons_append, filterM_cons, filterM_cons, ih]
    cases p a with
    | error x => rfl
    | ok b =>
      cases as.filterM p with
      | error x => rfl
      | ok cs => cases bs.filterM p <;> cases b <;> rfl

end Scan

theorem Selection.of_eq_ok {ix : Index} {r : Rule} {f : Element → Bool}
    (h : ∀ e ∈ ix.records, r.mode.holds (some ix) e r.conditions = .ok (f e)) :
    Selection.of ix r = .ok ⟨r, (ix.records.filter f).map (·.id)⟩ := by
  rw [Selection.of, filterM_ok h]
  rfl

end BuildingQuery
