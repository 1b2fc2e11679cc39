import BuildingQuery.Proofs.Condition.Leaves

/-! The kinds of values that the leaves of a condition hold. Whatever is read from a document is of
these kinds. -/

namespace BuildingQuery

/-- A value that is no list and no map. -/
def Value.isScalar : Value → Bool
  | .list _ | .map _ => false
  | _ => true

namespace Condition

/-- A predefined type is a text, and a property is compared with a scalar. -/
def hasTypedFields : Condition → Bool
  | type t => t.predefinedType.all fun
    | .str _ => true
    | _ => false
  | property t => t.value.isScalar
  | _ => true

/-- Every leaf of the tree holds values of its kinds. -/
def Typed (c : Condition) : Prop := ∀ l ∈ c.leaves, l.hasTypedFields = true

theorem typed_of_isLeaf {c : Condition} (h : c.isLeaf = true) :
    c.Typed ↔ c.hasTypedFields = true := by
  simp [Typed, leaves_of_isLeaf h]

theorem typed_group {k : GroupKind} {cs : List Condition} :
    (group k cs).Typed ↔ ∀ c ∈ cs, c.Typed := by
  simp only [Typed, mem_leaves_group]
  constructor
  · intro h c hc l hl
    exact h l ⟨c, hc, hl⟩
  · rintro h l ⟨c, hc, hl⟩
    exact h c hc l hl

end Condition

open Checked Decoder

theorem TypeTest.typed_of_ofFields {fs : Fields} {t : TypeTest} (h : ofFields fs = .ok t) :
    (Condition.type t).hasTypedFields = true := by
  obtain ⟨g, p, hg, hp, rfl⟩ := seq_eq_ok.mp h
  obtain ⟨g', b, hg', -, rfl⟩ := seq_eq_ok.mp hg
  obtain ⟨names, -, rfl⟩ := map_eq_ok.mp hg'
  rcases optional_eq_ok.mp hp with ⟨-, rfl⟩ | ⟨p, -, hv⟩
  · rfl
  · obtain ⟨s, -, rfl⟩ := checked_map_eq_ok.mp hv
    cases s <;> rfl

theorem Decoder.scalar_eq_ok {v w : Value} (h : scalar v = .ok w) : w.isScalar = true := by
  cases v <;> simp only [scalar, Checked.ok.injEq, reduceCtorEq] at h <;> subst h <;> rfl

theorem PropertyTest.typed_of_ofFields {o : Origin} {fs : Fields} {t : PropertyTest}
    (h : ofFields o fs = .ok t) : (Condition.property t).hasTypedFields = true := by
  obtain ⟨g₁, upper, h₁, -, rfl⟩ := seq_eq_ok.mp h
  obtain ⟨g₂, value, h₂, hv, rfl⟩ := seq_eq_ok.mp h₁
  obtain ⟨g₃, op, h₃, -, rfl⟩ := seq_eq_ok.mp h₂
  obtain ⟨g₄, name, h₄, -, rfl⟩ := seq_eq_ok.mp h₃
  obtain ⟨set, -, rfl⟩ := map_eq_ok.mp h₄
  rcases optional_eq_ok.mp hv with ⟨-, rfl⟩ | ⟨p, -, hv⟩
  · rfl
  · exact scalar_eq_ok hv

namespace Condition

variable {o : Origin} {Q : Value → Prop}

theorem hasTypedFields_of_read : HoldsOfRead o Q fun c => c.hasTypedFields = true := by
  intro fs c _ hl h
  rw [read] at h
  simp only [under_eq_ok] at h
  cases ht : ConditionTag.ofFields fs <;> simp only [ht] at h
  case type =>
    obtain ⟨t, hf, rfl⟩ := map_eq_ok.mp h
    exact TypeTest.typed_of_ofFields hf
  case property =>
    obtain ⟨t, hf, rfl⟩ := map_eq_ok.mp h
    exact PropertyTest.typed_of_ofFields hf
  case unknown =>
    obtain ⟨g, fields, hg, -, rfl⟩ := seq_eq_ok.mp h
    obtain ⟨kind, -, rfl⟩ := map_eq_ok.mp hg
    rfl
  all_goals
    obtain ⟨t, -, rfl⟩ := map_eq_ok.mp h
    rfl

theorem typed_of_read (v : Value) {c : Condition} (h : read o v = .ok c) : c.Typed :=
  forall_leaves_of_read Value.inherited_true hasTypedFields_of_read v trivial h

end Condition

theorem Rule.typed_of_read {r : Rule} {v : Value} (h : read v = .ok r) : r.body.Typed :=
  forall_leaves_of_read Value.inherited_true (fun _ => Condition.hasTypedFields_of_read)
    (fun _ _ _ => trivial) trivial h

end BuildingQuery
