import BuildingQuery.Proofs.Condition.Nodes
import Mathlib.Algebra.Group.Nat.Even

/-! Putting a condition in another one's place inside a tree. A condition that is never met takes
elements away from the tree around it, except that every group that asks for none of its members
turns the effect round. -/

namespace BuildingQuery

namespace Condition

/-- The tree with another condition at a place, which is given by the number of a member in each
group on the way down. A place that is not in the tree changes nothing. -/
def replaceAt : Condition → (path : List Nat) → (new : Condition) → Condition
  | _, [], new => new
  | group k cs, i :: path, new => group k (cs.modify i fun c => c.replaceAt path new)
  | c, _ :: _, _ => c

/-- The number of groups on the way to a place that ask for none of their members. -/
def negations : (path : List Nat) → Condition → Nat
  | i :: path, group k cs => (cs[i]?.elim 0 (negations path)) + if k = .none then 1 else 0
  | _, _ => 0

/-- A condition of an unknown kind, or a search for an expression that cannot be read. -/
inductive Broken : Condition → Prop where
  | unknown (kind : String) (fields : List (Key × Value)) : Broken (.unknown kind fields)
  | expression {subject : TextAttribute} {expression : String} {d : Regex.Defect}
      (h : Regex.read expression = .error d) :
      Broken (.attributeText ⟨subject, .matches, expression⟩)

theorem Broken.holds_ne_true {c : Condition} (h : c.Broken) (ix : Option Index) (e : Element) :
    c.holds ix e ≠ .ok true := by
  cases h with
  | unknown kind fields => simp [holds, pure, Except.pure]
  | @expression subject s d h =>
    rw [holds, AttributeTest.holds, TextComparison.toComparison, Comparison.holdsOfText.eq_def]
    cases e.textOf subject with
    | none => simp [Comparison.holdsOfNothing, pure, Except.pure]
    | some v =>
      cases d <;> simp [expressionFound, h, pure, Except.pure, throw, throwThe, MonadExceptOf.throw]

variable {ix : Option Index} {e : Element}

theorem group_undecided_iff {k : GroupKind} {cs : List Condition} :
    (group k cs).holds ix e = .ok (k.value []) ↔ ∀ c ∈ cs, c.holds ix e = .ok k.undecided := by
  cases k with
  | all =>
    rw [holds]
    exact allHold_tries.undecided_iff
  | any =>
    rw [holds]
    exact anyHolds_tries.undecided_iff
  | none =>
    rw [GroupKind.undecided, ← anyHolds_tries.undecided_iff, holds]
    cases anyHolds ix e cs with
    | error f => simp [bind, Except.bind]
    | ok b => cases b <;> simp [bind, Except.bind, pure, Except.pure, GroupKind.value]

theorem exists_of_group_decided {k : GroupKind} {cs : List Condition}
    (h : (group k cs).holds ix e = .ok !k.value []) :
    ∃ c ∈ cs, c.holds ix e = .ok !k.undecided := by
  cases k with
  | all =>
    rw [holds] at h
    exact allHold_tries.exists_of_decided h
  | any =>
    rw [holds] at h
    exact anyHolds_tries.exists_of_decided h
  | none =>
    rw [holds] at h
    refine anyHolds_tries.exists_of_decided ?_
    cases ha : anyHolds ix e cs with
    | error f => simp [ha, bind, Except.bind] at h
    | ok b => cases b <;> simp_all [bind, Except.bind, pure, Except.pure, GroupKind.value]

/-- The first outcome is the opposite of `b`, and the second is `b`. -/
def Turns (b : Bool) (x y : Except Fault Bool) : Prop := x = .ok (!b) ∧ y = .ok b

/-- A group is turned only by a member that is turned with it, or against it if the group asks for
none of its members. -/
theorem turns_of_turns_group {k : GroupKind} {pre post : List Condition} {c d : Condition}
    {b : Bool} (h : Turns b ((group k (pre ++ c :: post)).holds ix e)
      ((group k (pre ++ d :: post)).holds ix e)) :
    Turns (b == decide (k ≠ .none)) (c.holds ix e) (d.holds ix e) := by
  -- Members beside the place cannot both decide the group and leave it undecided.
  have only {x y : Condition} (hall : ∀ a ∈ pre ++ x :: post, a.holds ix e = .ok k.undecided)
      (hex : ∃ a ∈ pre ++ y :: post, a.holds ix e = .ok !k.undecided) :
      x.holds ix e = .ok k.undecided ∧ y.holds ix e = .ok !k.undecided := by
    refine ⟨hall x (by simp), ?_⟩
    obtain ⟨a, ha, hd⟩ := hex
    have hsame : a ∈ pre ++ x :: post → a.holds ix e ≠ .ok !k.undecided := by
      intro ha
      rw [hall a ha]
      simp
    simp only [List.mem_append, List.mem_cons] at ha hsame
    rcases ha with ha | rfl | ha
    · exact absurd hd (hsame (.inl ha))
    · exact hd
    · exact absurd hd (hsame (.inr (.inr ha)))
  obtain ⟨hc, hd⟩ := h
  by_cases hb : b = k.value []
  · rw [hb] at hc hd
    obtain ⟨hd, hc⟩ := only (group_undecided_iff.mp hd) (exists_of_group_decided hc)
    have hu : (b == decide (k ≠ .none)) = k.undecided := by
      rw [hb]
      cases k <;> rfl
    rw [hu]
    exact ⟨hc, hd⟩
  · have hb : b = !k.value [] := Bool.eq_not.mpr hb
    rw [hb] at hd
    rw [hb, Bool.not_not] at hc
    obtain ⟨hc, hd⟩ := only (group_undecided_iff.mp hc) (exists_of_group_decided hd)
    have hu : (b == decide (k ≠ .none)) = !k.undecided := by
      rw [hb]
      cases k <;> rfl
    rw [hu]
    exact ⟨by rwa [Bool.not_not], hd⟩

theorem not_turns_self (b : Bool) (x : Except Fault Bool) : ¬ Turns b x x := by
  rintro ⟨h, h'⟩
  have hb := h.symm.trans h'
  simp at hb

theorem replaceAt_group (k : GroupKind) (cs : List Condition) (i : Nat) (path : List Nat) :
    (∀ new, (group k cs).replaceAt (i :: path) new = group k cs) ∨
      ∃ pre c post, cs = pre ++ c :: post ∧ cs[i]? = some c ∧
        ∀ new, (group k cs).replaceAt (i :: path) new =
          group k (pre ++ c.replaceAt path new :: post) := by
  by_cases hi : i < cs.length
  · refine .inr ⟨cs.take i, cs[i], cs.drop (i + 1), by simp, by simp, fun new => ?_⟩
    rw [replaceAt, List.modify_eq_take_cons_drop hi]
  · refine .inl fun new => ?_
    rw [replaceAt, List.modify_eq_self (Nat.le_of_not_lt hi)]

/-- Trees that differ in one place only are turned only by what stands there: the same way if an
even number of groups on the way asks for none of its members, the opposite way if an odd number
does. -/
theorem turns_of_turns_replaceAt {x y : Condition} {path : List Nat} {c : Condition} {b : Bool}
    (h : Turns b ((c.replaceAt path x).holds ix e) ((c.replaceAt path y).holds ix e)) :
    Turns (b == decide (Even (c.negations path))) (x.holds ix e) (y.holds ix e) := by
  induction path generalizing c b with
  | nil => simpa [negations, replaceAt] using h
  | cons i path ih =>
    cases c with
    | group k cs =>
      rcases replaceAt_group k cs i path with hr | ⟨pre, d, post, -, hi, hr⟩
      · rw [hr, hr] at h
        exact absurd h (not_turns_self _ _)
      · rw [hr, hr] at h
        have hd := ih (turns_of_turns_group h)
        have hb : (b == decide (Even ((group k cs).negations (i :: path)))) =
            ((b == decide (k ≠ .none)) == decide (Even (d.negations path))) := by
          rw [negations, hi, Option.elim_some]
          by_cases hk : k = .none
          · have heven : decide (Even (d.negations path + 1)) =
                !decide (Even (d.negations path)) := by
              rw [← decide_not, decide_eq_decide]
              exact Nat.even_add_one
            rw [if_pos hk, heven]
            cases b <;> simp [hk]
          · cases b <;> simp [hk]
        rwa [hb]
    | _ => exact absurd h (not_turns_self _ _)

theorem modify_eq_self_of_fixed {cs : List Condition} {i : Nat} {f : Condition → Condition}
    (h : ∀ c, cs[i]? = some c → f c = c) : cs.modify i f = cs := by
  refine List.ext_getElem? fun j => ?_
  by_cases hj : i = j
  · subst hj
    cases hc : cs[i]? with
    | none => simp [hc]
    | some c => simp [hc, h c hc]
  · simp [hj]

theorem replaceAt_self {path : List Nat} {c d : Condition} (h : c.at? path = some d) :
    c.replaceAt path d = c := by
  induction path generalizing c with
  | nil => exact (Option.some.inj h).symm
  | cons i path ih =>
    cases c with
    | group k cs =>
      obtain ⟨m, hm, hd⟩ := Option.bind_eq_some_iff.mp h
      rw [replaceAt, modify_eq_self_of_fixed]
      intro c hc
      obtain rfl : m = c := Option.some.inj (hm.symm.trans hc)
      exact ih hd
    | _ => rfl

theorem replaceAt_of_at?_eq_none {path : List Nat} {c : Condition} (h : c.at? path = none)
    (new : Condition) : c.replaceAt path new = c := by
  induction path generalizing c with
  | nil => nomatch h
  | cons i path ih =>
    cases c with
    | group k cs =>
      rw [at?, Option.bind_eq_none_iff] at h
      rw [replaceAt, modify_eq_self_of_fixed]
      exact fun c hc => ih (h c hc)
    | _ => rfl

/-- A tree that another condition turns has a place for it. -/
theorem holds_of_turns {new : Condition} {path : List Nat} {c : Condition} {b : Bool}
    (h : Turns b (c.holds ix e) ((c.replaceAt path new).holds ix e)) :
    new.holds ix e = .ok (b == decide (Even (c.negations path))) := by
  cases hd : c.at? path with
  | none =>
    rw [replaceAt_of_at?_eq_none hd] at h
    exact absurd h (not_turns_self _ _)
  | some d =>
    have ht : Turns b ((c.replaceAt path d).holds ix e) ((c.replaceAt path new).holds ix e) := by
      rwa [replaceAt_self hd]
    exact (turns_of_turns_replaceAt ht).2

/-- What is never met turns no tree into a match from a place with an even number of such groups
around it, and none into a mismatch from any other place. -/
theorem not_turns_of_ne_true {new : Condition} (hn : new.holds ix e ≠ .ok true) (c : Condition)
    (path : List Nat) :
    ¬ Turns (decide (Even (c.negations path))) (c.holds ix e)
      ((c.replaceAt path new).holds ix e) := by
  intro h
  have hnew := holds_of_turns h
  rw [beq_self_eq_true] at hnew
  exact hn hnew

end Condition

end BuildingQuery
