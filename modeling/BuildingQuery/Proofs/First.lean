import Mathlib.Data.List.Forall2
import Mathlib.Data.List.Induction

/-! The first member of a list that has a property, and the last one. A list of attempts fails with
the first that fails. -/

namespace BuildingQuery

variable {α : Type} {P Q : α → Prop}

/-- Some member has `Q`, and every member before it has `P`. -/
def FirstAt (P Q : α → Prop) (as : List α) : Prop :=
  ∃ pre a post, as = pre ++ a :: post ∧ (∀ b ∈ pre, P b) ∧ Q a

theorem not_firstAt_nil : ¬ FirstAt P Q [] := by
  rintro ⟨pre, a, post, h, -⟩
  cases pre <;> simp at h

theorem firstAt_cons {a : α} {as : List α} :
    FirstAt P Q (a :: as) ↔ Q a ∨ P a ∧ FirstAt P Q as := by
  constructor
  · rintro ⟨pre, b, post, h, hpre, hb⟩
    cases pre with
    | nil =>
      obtain ⟨rfl, rfl⟩ := List.cons.inj h
      exact .inl hb
    | cons c pre =>
      obtain ⟨rfl, rfl⟩ := List.cons.inj h
      exact .inr ⟨hpre a List.mem_cons_self, pre, b, post, rfl,
        fun x hx => hpre x (List.mem_cons_of_mem _ hx), hb⟩
  · rintro (ha | ⟨ha, pre, b, post, rfl, hpre, hb⟩)
    · exact ⟨[], a, as, rfl, by simp, ha⟩
    · refine ⟨a :: pre, b, post, rfl, ?_, hb⟩
      intro x hx
      rcases List.mem_cons.mp hx with rfl | hx
      · exact ha
      · exact hpre x hx

theorem firstAt_congr {P' Q' : α → Prop} {as : List α} (hP : ∀ a ∈ as, P a ↔ P' a)
    (hQ : ∀ a ∈ as, Q a ↔ Q' a) : FirstAt P Q as ↔ FirstAt P' Q' as := by
  induction as with
  | nil => simp only [not_firstAt_nil]
  | cons a as ih =>
    rw [firstAt_cons, firstAt_cons, hP a List.mem_cons_self, hQ a List.mem_cons_self,
      ih (fun b hb => hP b (List.mem_cons_of_mem _ hb)) fun b hb => hQ b (List.mem_cons_of_mem _ hb)]

/-- Some member has `Q`, and every member after it has `P`. -/
def LastAt (P Q : α → Prop) (as : List α) : Prop :=
  ∃ pre a post, as = pre ++ a :: post ∧ Q a ∧ ∀ b ∈ post, P b

theorem not_lastAt_nil : ¬ LastAt P Q [] := by
  rintro ⟨pre, a, post, h, -⟩
  cases pre <;> simp at h

theorem lastAt_cons {a : α} {as : List α} :
    LastAt P Q (a :: as) ↔ LastAt P Q as ∨ Q a ∧ ∀ b ∈ as, P b := by
  constructor
  · rintro ⟨pre, b, post, h, hb, hpost⟩
    cases pre with
    | nil =>
      obtain ⟨rfl, rfl⟩ := List.cons.inj h
      exact .inr ⟨hb, hpost⟩
    | cons c pre =>
      obtain ⟨rfl, rfl⟩ := List.cons.inj h
      exact .inl ⟨pre, b, post, rfl, hb, hpost⟩
  · rintro (⟨pre, b, post, rfl, hb, hpost⟩ | ⟨ha, has⟩)
    · exact ⟨a :: pre, b, post, rfl, hb, hpost⟩
    · exact ⟨[], a, as, rfl, ha, has⟩

theorem lastAt_append_singleton {as : List α} {a : α} :
    LastAt P Q (as ++ [a]) ↔ Q a ∨ P a ∧ LastAt P Q as := by
  constructor
  · rintro ⟨pre, b, post, h, hb, hpost⟩
    rcases List.eq_nil_or_concat post with rfl | ⟨post, c, rfl⟩
    · obtain ⟨-, hab⟩ := List.append_inj' h rfl
      obtain rfl := List.singleton_inj.mp hab
      exact .inl hb
    · have hcat : as ++ [a] = (pre ++ b :: post) ++ [c] := by simpa using h
      obtain ⟨has, hac⟩ := List.append_inj' hcat rfl
      obtain rfl := List.singleton_inj.mp hac
      exact .inr ⟨hpost a (by simp), pre, b, post, has, hb, fun x hx => hpost x (by simp [hx])⟩
  · rintro (ha | ⟨ha, pre, b, post, rfl, hb, hpost⟩)
    · exact ⟨as, a, [], rfl, ha, by simp⟩
    · refine ⟨pre, b, post ++ [a], by simp, hb, fun x hx => ?_⟩
      rcases List.mem_append.mp hx with hx | hx
      · exact hpost x hx
      · exact List.mem_singleton.mp hx ▸ ha

theorem lastAt_congr {P' Q' : α → Prop} (hP : ∀ a, P a ↔ P' a) (hQ : ∀ a, Q a ↔ Q' a)
    {as : List α} : LastAt P Q as ↔ LastAt P' Q' as := by
  simp only [LastAt, hP, hQ]

theorem lastAt_filterMap {β : Type} {f : β → Option α} {bs : List β} :
    LastAt P Q (bs.filterMap f) ↔
      LastAt (fun b => ∀ a, f b = some a → P a) (fun b => ∃ a, f b = some a ∧ Q a) bs := by
  induction bs using List.reverseRecOn with
  | nil => simp [not_lastAt_nil]
  | append_singleton bs b ih =>
    rw [List.filterMap_append, lastAt_append_singleton, ← ih]
    cases hf : f b with
    | none => simp [hf]
    | some a =>
      have hone : [b].filterMap f = [a] := by simp [hf]
      rw [hone, lastAt_append_singleton]
      simp

theorem exists_of_forall₂ {β : Type} {R : α → β → Prop} {as : List α} {bs : List β}
    (h : List.Forall₂ R as bs) : ∀ b ∈ bs, ∃ a ∈ as, R a b := by
  induction h with
  | nil => simp
  | cons hab _ ih =>
    intro b hb
    rcases List.mem_cons.mp hb with rfl | hb
    · exact ⟨_, List.mem_cons_self, hab⟩
    · obtain ⟨a, ha, hr⟩ := ih b hb
      exact ⟨a, List.mem_cons_of_mem _ ha, hr⟩

section Related

variable {β : Type} {R : α → β → Prop} {as : List α} {bs : List β}

theorem exists_forall₂_iff : (∃ bs, List.Forall₂ R as bs) ↔ ∀ a ∈ as, ∃ b, R a b := by
  induction as with
  | nil => simp
  | cons a as ih => simp [List.forall₂_cons_left_iff, ← ih, exists_and_left]

theorem forall_of_forall₂ {P' : β → Prop} (h : List.Forall₂ R as bs)
    (hP : ∀ a b, R a b → (P a ↔ P' b)) : (∀ a ∈ as, P a) ↔ ∀ b ∈ bs, P' b := by
  induction h with
  | nil => simp
  | cons hab _ ih => rw [List.forall_mem_cons, List.forall_mem_cons, hP _ _ hab, ih]

theorem lastAt_of_forall₂ {P' Q' : β → Prop} (h : List.Forall₂ R as bs)
    (hP : ∀ a b, R a b → (P a ↔ P' b)) (hQ : ∀ a b, R a b → (Q a ↔ Q' b)) :
    LastAt P Q as ↔ LastAt P' Q' bs := by
  induction h with
  | nil => simp only [not_lastAt_nil]
  | cons hab h ih => rw [lastAt_cons, lastAt_cons, ih, hQ _ _ hab, forall_of_forall₂ h hP]

end Related

section Attempts

variable {β ε : Type} {f : α → Except ε β} {as : List α}

theorem exists_of_bind_eq_ok {r : Except ε α} {g : α → Except ε β} {b : β}
    (h : r >>= g = .ok b) : ∃ a, r = .ok a ∧ g a = .ok b := by
  cases r with
  | error _ => nomatch h
  | ok a => exact ⟨a, rfl, h⟩

theorem map_eq_ok_iff {g : α → β} {r : Except ε α} {b : β} :
    g <$> r = .ok b ↔ ∃ a, r = .ok a ∧ g a = b := by
  cases r <;> simp [Functor.map, Except.map]

theorem map_eq_error_iff {g : α → β} {r : Except ε α} {x : ε} :
    g <$> r = .error x ↔ r = .error x := by
  cases r <;> simp [Functor.map, Except.map]

theorem mapM_eq_ok_iff {bs : List β} :
    as.mapM f = .ok bs ↔ List.Forall₂ (fun a b => f a = .ok b) as bs := by
  induction as generalizing bs with
  | nil => simp [pure, Except.pure, eq_comm]
  | cons a as ih =>
    rw [List.mapM_cons, List.forall₂_cons_left_iff]
    simp only [← ih]
    cases f a with
    | error x => simp [bind, Except.bind]
    | ok b => cases as.mapM f <;> simp [bind, Except.bind, pure, Except.pure, eq_comm]

end Attempts

end BuildingQuery
