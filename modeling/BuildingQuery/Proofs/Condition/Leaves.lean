import BuildingQuery.Condition.Reader
import BuildingQuery.Proofs.Checked
import BuildingQuery.Proofs.Condition.Tree

/-! The leaves of what is read from a document. Every one of them is read from a record of its own
that is a part of the document, so that what holds of these holds of all leaves of a condition and
of a rule. -/

namespace BuildingQuery

open Checked Decoder

/-- The parts of data of a kind are of the kind. -/
structure Value.Inherited (Q : Value → Prop) : Prop where
  item : ∀ {vs : List Value}, Q (.list vs) → ∀ v ∈ vs, Q v
  entry : ∀ {es : List (Key × Value)}, Q (.map es) → ∀ e ∈ es, Q e.2

theorem Value.inherited_true : Inherited fun _ => True :=
  ⟨fun _ _ _ => trivial, fun _ _ _ => trivial⟩

namespace Condition

variable {o : Origin} {Q : Value → Prop} {P : Condition → Prop}

theorem read_map_eq_ok {fs : Fields} {c : Condition} (h : read o (.map fs) = .ok c) :
    c.isLeaf = true ∨ ∃ k cs, c = group k cs ∧ readMembers o fs = .ok cs := by
  rw [read] at h
  simp only [under_eq_ok] at h
  cases ht : ConditionTag.ofFields fs <;> simp only [ht] at h
  case group k =>
    obtain ⟨cs, hcs, rfl⟩ := map_eq_ok.mp h
    exact .inr ⟨k, cs, rfl, hcs⟩
  case unknown =>
    obtain ⟨g, fields, hg, -, rfl⟩ := seq_eq_ok.mp h
    obtain ⟨kind, -, rfl⟩ := map_eq_ok.mp hg
    exact .inl rfl
  all_goals
    obtain ⟨t, -, rfl⟩ := map_eq_ok.mp h
    exact .inl rfl

theorem readAll_eq_traverse (vs : List Value) (place : Nat) :
    readAll o place vs = Checked.traverse (read o) place vs := by
  induction vs generalizing place with
  | nil => rfl
  | cons v vs ih => simp only [readAll, Checked.traverse, ih]

/-- `P` holds of every leaf that is read from a record of the kind `Q`. -/
def HoldsOfRead (o : Origin) (Q : Value → Prop) (P : Condition → Prop) : Prop :=
  ∀ fs c, Q (.map fs) → c.isLeaf = true → read o (.map fs) = .ok c → P c

mutual

theorem forall_leaves_of_read (hQ : Value.Inherited Q) (hP : HoldsOfRead o Q P) :
    ∀ (v : Value) {c : Condition}, Q v → read o v = .ok c → ∀ l ∈ c.leaves, P l
  | .map fs, c, hv, h, l, hl => by
    rcases read_map_eq_ok h with hc | ⟨k, cs, rfl, hcs⟩
    · rw [leaves_of_isLeaf hc, List.mem_singleton] at hl
      exact hl ▸ hP fs c hv hc h
    · obtain ⟨c, hc, hl⟩ := mem_leaves_group.mp hl
      exact forall_leaves_of_readMembers hQ hP fs (hQ.entry hv) hcs c hc l hl
  | .null, _, _, h, _, _ | .bool _, _, _, h, _, _ | .int _, _, _, h, _, _
  | .float _, _, _, h, _, _ | .str _, _, _, h, _, _ | .list _, _, _, h, _, _ => by
    simp [read, under_eq_ok, fail] at h

theorem forall_leaves_of_readMembers (hQ : Value.Inherited Q) (hP : HoldsOfRead o Q P) :
    ∀ (fs : Fields) {cs : List Condition}, (∀ f ∈ fs, Q f.2) → readMembers o fs = .ok cs →
      ∀ c ∈ cs, ∀ l ∈ c.leaves, P l
  | [], cs, _, h, c, hc => by
    cases h
    simp at hc
  | (k, v) :: fs, cs, hfs, h, c, hc => by
    obtain ⟨hv, hfs⟩ := List.forall_mem_cons.mp hfs
    rw [readMembers] at h
    split at h
    · exact forall_leaves_of_readList hQ hP v hv (under_eq_ok.mp h) c hc
    · exact forall_leaves_of_readMembers hQ hP fs hfs h c hc

theorem forall_leaves_of_readList (hQ : Value.Inherited Q) (hP : HoldsOfRead o Q P) :
    ∀ (v : Value) {cs : List Condition}, Q v → readList o v = .ok cs →
      ∀ c ∈ cs, ∀ l ∈ c.leaves, P l
  | .list vs, cs, hv, h, c, hc => by
    rw [readList] at h
    exact forall_leaves_of_readAll hQ hP vs 0 (hQ.item hv) h c hc
  | .null, _, _, h, _, _ | .bool _, _, _, h, _, _ | .int _, _, _, h, _, _
  | .float _, _, _, h, _, _ | .str _, _, _, h, _, _ | .map _, _, _, h, _, _ => by
    simp [readList, fail] at h

theorem forall_leaves_of_readAll (hQ : Value.Inherited Q) (hP : HoldsOfRead o Q P) :
    ∀ (vs : List Value) (place : Nat) {cs : List Condition}, (∀ v ∈ vs, Q v) →
      readAll o place vs = .ok cs → ∀ c ∈ cs, ∀ l ∈ c.leaves, P l
  | [], _, cs, _, h, c, hc => by
    cases h
    simp at hc
  | v :: vs, place, cs, hvs, h, c, hc => by
    obtain ⟨hv, hvs⟩ := List.forall_mem_cons.mp hvs
    rw [readAll] at h
    obtain ⟨g, ds, hg, hds, rfl⟩ := seq_eq_ok.mp h
    obtain ⟨d, hd, rfl⟩ := map_eq_ok.mp hg
    rcases List.mem_cons.mp hc with rfl | hc
    · exact forall_leaves_of_read hQ hP v hv (under_eq_ok.mp hd)
    · exact forall_leaves_of_readAll hQ hP vs (place + 1) hvs hds c hc

end

end Condition

namespace Rule

variable {Q : Value → Prop} {P : Condition → Prop} {r : Rule}

theorem forall_leaves_of_decoder {o : Origin} (hQ : Value.Inherited Q)
    (hP : Condition.HoldsOfRead o Q P) {v : Value} (hv : Q v) (h : decoder o v = .ok r) :
    ∀ l ∈ r.body.leaves, P l := by
  cases v <;> simp only [decoder, record, fail, reduceCtorEq] at h
  case map fs =>
    obtain ⟨g₁, mode, h₁, -, rfl⟩ := seq_eq_ok.mp h
    obtain ⟨g₂, cs, h₂, hcs, rfl⟩ := seq_eq_ok.mp h₁
    obtain ⟨g₃, description, h₃, -, rfl⟩ := seq_eq_ok.mp h₂
    obtain ⟨g₄, name, h₄, -, rfl⟩ := seq_eq_ok.mp h₃
    obtain ⟨id, -, rfl⟩ := map_eq_ok.mp h₄
    intro l hl
    obtain ⟨c, hc, hl⟩ := Condition.mem_leaves_group.mp hl
    rcases optional_eq_ok.mp hcs with ⟨-, rfl⟩ | ⟨⟨name, w⟩, hfind, hw⟩
    · simp at hc
    · obtain ⟨k, hk⟩ := FieldName.exists_mem_of_find? hfind
      have hitems := hQ.entry hv _ hk
      cases w <;> simp only [tuple, fail, reduceCtorEq] at hw
      rw [← Condition.readAll_eq_traverse] at hw
      exact Condition.forall_leaves_of_readAll hQ hP _ 0 (hQ.item hitems) hw c hc l hl

/-- What holds of every leaf that is read from a record of a kind holds of all leaves of a rule from
a document of the kind, where JSON text counts as the data that it is read as. -/
theorem forall_leaves_of_read (hQ : Value.Inherited Q) (hP : ∀ o, Condition.HoldsOfRead o Q P)
    (hread : ∀ s v, Json.read? s = some v → Q v) {v : Value} (hv : Q v) (h : read v = .ok r) :
    ∀ l ∈ r.body.leaves, P l := by
  cases v <;> simp only [read] at h
  case str s =>
    rw [ofJson] at h
    split at h
    · exact forall_leaves_of_decoder hQ (hP .json) (hread _ _ ‹_›) h
    · nomatch h
  all_goals exact forall_leaves_of_decoder hQ (hP .plain) hv h

end Rule

end BuildingQuery
