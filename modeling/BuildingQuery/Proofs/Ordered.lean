import BuildingQuery.Ordered
import Mathlib.Data.List.Perm.Basic
import Mathlib.Order.Defs.LinearOrder
import Mathlib.Data.String.Basic

/-! What is sorted holds the same items. The order by counts and that of texts are total, so that
what they sort is in order; of other orders only the least and the greatest item are known. -/

namespace BuildingQuery.Ordered

variable {α : Type}

section Permutations

variable (less : α → α → Bool)

theorem insert_perm (sorted : List α) (x : α) : (insert less sorted x).Perm (x :: sorted) := by
  have h : ∀ place, (sorted.take place ++ x :: sorted.drop place).Perm (x :: sorted) := by
    intro place
    have hm : (sorted.take place ++ x :: sorted.drop place).Perm
        (x :: (sorted.take place ++ sorted.drop place)) := List.perm_middle
    rwa [List.take_append_drop] at hm
  exact h _

theorem foldl_insert_perm (run rest : List α) :
    (rest.foldl (insert less) run).Perm (run ++ rest) := by
  induction rest generalizing run with
  | nil => simp
  | cons x rest ih =>
    have hx : (insert less run x ++ rest).Perm (x :: run ++ rest) :=
      (insert_perm less run x).append_right rest
    exact (ih _).trans (hx.trans List.perm_middle.symm)

theorem splitRun_append (stand : α → α → Bool) (a : α) (as : List α) :
    (splitRun stand a as).1 ++ (splitRun stand a as).2 = a :: as := by
  induction as generalizing a with
  | nil => rfl
  | cons b as ih =>
    rw [splitRun]
    split
    · exact congrArg (a :: ·) (ih b)
    · rfl

theorem sort_perm (as : List α) : (sort less as).Perm as := by
  match as with
  | [] => exact .nil
  | [a] => exact .refl _
  | a :: b :: rest =>
    simp only [sort]
    split
    · have hrun := splitRun_append (fun x y => less y x) a (b :: rest)
      have hrev := List.reverse_perm (splitRun (fun x y => less y x) a (b :: rest)).1
      exact (foldl_insert_perm less _ _).trans ((hrev.append_right _).trans (.of_eq hrun))
    · have hrun := splitRun_append (fun x y => !less y x) a (b :: rest)
      exact (foldl_insert_perm less _ _).trans (.of_eq hrun)

end Permutations

section Counts

variable (count : α → Nat)

theorem byCount_perm (as : List α) : (byCount count as).Perm as := List.mergeSort_perm _ _

theorem byCount_sorted (as : List α) :
    (byCount count as).Pairwise fun a b => count b ≤ count a := by
  have h := @List.pairwise_mergeSort α (fun a b => decide (count b ≤ count a))
    (fun a b c hab hbc => by simp only [decide_eq_true_eq] at *; omega)
    (fun a b => by simp only [Bool.or_eq_true, decide_eq_true_eq]; omega) as
  exact h.imp fun hab => of_decide_eq_true hab

end Counts

theorem texts_perm (ss : List String) : (texts ss).Perm ss := List.mergeSort_perm _ _

/-- Texts no two of which are equal are sorted strictly. -/
theorem texts_sorted {ss : List String} (hn : ss.Nodup) : (texts ss).Pairwise (· < ·) := by
  have h := @List.pairwise_mergeSort String (fun s t => decide (s ≤ t))
    (fun a b c hab hbc => by simp only [decide_eq_true_eq] at *; exact hab.trans hbc)
    (fun a b => by simp only [Bool.or_eq_true, decide_eq_true_eq]; exact le_total a b) ss
  have hne : (texts ss).Pairwise (· ≠ ·) := (texts_perm ss).nodup_iff.mpr hn
  exact (h.and hne).imp fun hab => lt_of_le_of_ne (of_decide_eq_true hab.1) hab.2

section Least

variable {β : Type} [LinearOrder β] {less : α → α → Bool}

theorem least_mem (less : α → α → Bool) (a : α) (as : List α) : least less a as ∈ a :: as := by
  induction as generalizing a with
  | nil => exact List.mem_singleton_self a
  | cons b as ih =>
    have hs := ih (if less b a then b else a)
    rw [least, List.foldl_cons]
    rcases List.mem_cons.mp hs with hs | hs
    · rw [least] at hs
      rw [hs]
      split <;> simp
    · exact List.mem_cons_of_mem _ (List.mem_cons_of_mem _ hs)

/-- Where items are told apart by a rank, none has a lower one than the least. -/
theorem rank_least_le (rank : α → β) {a : α} {as : List α}
    (h : ∀ x ∈ a :: as, ∀ y ∈ a :: as, less x y = true ↔ rank x < rank y) :
    ∀ x ∈ a :: as, rank (least less a as) ≤ rank x := by
  induction as generalizing a with
  | nil => simp [least]
  | cons b as ih =>
    have hba := h b (by simp) a (by simp)
    obtain ⟨c, hc⟩ : ∃ c, c = if less b a then b else a := ⟨_, rfl⟩
    have hcmem : c ∈ a :: b :: as := by
      rw [hc]
      split <;> simp
    have hle : rank c ≤ rank a ∧ rank c ≤ rank b := by
      rw [hc]
      by_cases hlt : less b a = true
      · simpa [hlt] using (hba.mp hlt).le
      · simpa [hlt] using not_lt.mp (mt hba.mpr hlt)
    have hsub : ∀ x ∈ c :: as, x ∈ a :: b :: as := by
      intro x hx
      rcases List.mem_cons.mp hx with rfl | hx
      · exact hcmem
      · simp [hx]
    have hs := ih fun x hx y hy => h x (hsub x hx) y (hsub y hy)
    have hleast : least less a (b :: as) = least less c as := by
      rw [least, List.foldl_cons, ← hc, least]
    rw [hleast]
    intro x hx
    have hcx := hs c List.mem_cons_self
    rcases List.mem_cons.mp hx with rfl | hx
    · exact hcx.trans hle.1
    · rcases List.mem_cons.mp hx with rfl | hx
      · exact hcx.trans hle.2
      · exact hs x (List.mem_cons_of_mem _ hx)

/-- The greatest is the least in the other direction. -/
theorem greatest_eq_least (less : α → α → Bool) (a : α) (as : List α) :
    greatest less a as = least (fun x y => less y x) a as := rfl

end Least

end BuildingQuery.Ordered
