import BuildingQuery.Decode
import BuildingQuery.Proofs.OrderedMap
import Mathlib.Data.List.Forall2

/-! Checks that succeed: what their parts gave, and what fields they read. Checks that fail: what is
wrong with the whole is what is wrong with the parts, in their order. -/

namespace BuildingQuery

/-- The issue as it is told from outside of a part. -/
def Issue.under (steps : List Step) (i : Issue) : Issue := { i with path := steps ++ i.path }

theorem Issue.under_under (steps more : List Step) (i : Issue) :
    (i.under more).under steps = i.under (steps ++ more) := by
  rw [under, under, under, List.append_assoc]

namespace Checked

variable {α β : Type}

@[simp]
theorem map_ok (f : α → β) (a : α) : f <$> (ok a : Checked α) = ok (f a) := rfl

@[simp]
theorem seq_ok (f : α → β) (a : α) : (ok f : Checked (α → β)) <*> ok a = ok (f a) := rfl

@[simp]
theorem under_ok (steps : List Step) (a : α) : (ok a : Checked α).under steps = ok a := rfl

theorem map_eq_ok {f : α → β} {x : Checked α} {b : β} :
    f <$> x = ok b ↔ ∃ a, x = ok a ∧ f a = b := by
  cases x with
  | ok a => simp
  | wrong is =>
    constructor
    · intro h
      nomatch h
    · rintro ⟨a, h, -⟩
      nomatch h

theorem seq_eq_ok {f : Checked (α → β)} {x : Checked α} {b : β} :
    f <*> x = ok b ↔ ∃ g a, f = ok g ∧ x = ok a ∧ g a = b := by
  constructor
  · intro h
    cases f <;> cases x <;> first | exact ⟨_, _, rfl, rfl, ok.inj h⟩ | nomatch h
  · rintro ⟨g, a, rfl, rfl, rfl⟩
    rfl

theorem map_of_ok {f : α → β} {x : Checked α} {a : α} (h : x = ok a) : f <$> x = ok (f a) :=
  map_eq_ok.mpr ⟨a, h, rfl⟩

theorem seq_of_ok {f : Checked (α → β)} {x : Checked α} {g : α → β} {a : α} (hf : f = ok g)
    (hx : x = ok a) : f <*> x = ok (g a) := seq_eq_ok.mpr ⟨g, a, hf, hx, rfl⟩

theorem under_eq_ok {steps : List Step} {x : Checked α} {a : α} :
    x.under steps = ok a ↔ x = ok a := by
  cases x <;> simp [under]

theorem checked_map_eq_ok {f : α → β} {x : Checked α} {b : β} :
    x.map f = ok b ↔ ∃ a, x = ok a ∧ f a = b := map_eq_ok

theorem traverse_map {γ : Type} {f : α → Checked β} {g : γ → α} {h : γ → β} {cs : List γ}
    (hc : ∀ c ∈ cs, f (g c) = ok (h c)) (place : Nat) :
    Checked.traverse f place (cs.map g) = ok (cs.map h) := by
  induction cs generalizing place with
  | nil => rfl
  | cons c cs ih =>
    have hd := hc c List.mem_cons_self
    have hs := ih (fun d hd => hc d (List.mem_cons_of_mem _ hd)) (place + 1)
    simp only [List.map_cons, Checked.traverse, hd, hs, under_ok, map_ok, seq_ok]

/-- A list passes if its members do, wherever they stand. -/
theorem traverse_eq_ok_iff {f : α → Checked β} {place : Nat} {as : List α} {bs : List β} :
    Checked.traverse f place as = ok bs ↔ List.Forall₂ (fun a b => f a = ok b) as bs := by
  induction as generalizing place bs with
  | nil =>
    rw [List.forall₂_nil_left_iff, Checked.traverse, Checked.ok.injEq]
    exact eq_comm
  | cons a as ih =>
    rw [List.forall₂_cons_left_iff, Checked.traverse, seq_eq_ok]
    constructor
    · rintro ⟨g, cs, hg, hcs, rfl⟩
      obtain ⟨b, hb, rfl⟩ := map_eq_ok.mp hg
      exact ⟨b, cs, under_eq_ok.mp hb, ih.mp hcs, rfl⟩
    · rintro ⟨b, cs, hb, hcs, rfl⟩
      exact ⟨_, cs, map_eq_ok.mpr ⟨b, under_eq_ok.mpr hb, rfl⟩, ih.mpr hcs, rfl⟩

theorem exists_traverse_iff {f : α → Checked β} (place : Nat) {as : List α} :
    (∃ bs, Checked.traverse f place as = ok bs) ↔ ∀ a ∈ as, ∃ b, f a = ok b := by
  simp only [traverse_eq_ok_iff]
  exact exists_forall₂_iff

section Issues

theorem eq_wrong_iff {x : Checked α} {is : List Issue} :
    x = wrong is ↔ (∀ a, x ≠ ok a) ∧ x.issues = is := by
  cases x <;> simp [issues]

theorem issues_map (f : α → β) (x : Checked α) : (f <$> x).issues = x.issues := by
  cases x <;> rfl

theorem issues_seq (f : Checked (α → β)) (x : Checked α) :
    (f <*> x).issues = f.issues ++ x.issues := by
  cases f with
  | ok g => cases x <;> rfl
  | wrong is =>
    cases x with
    | ok a => exact (List.append_nil is).symm
    | wrong js => rfl

theorem issues_under (steps : List Step) (x : Checked α) :
    (x.under steps).issues = x.issues.map (Issue.under steps) := by
  cases x <;> rfl

theorem issues_traverse (f : α → Checked β) (place : Nat) (as : List α) :
    (Checked.traverse f place as).issues =
      (as.zipIdx place).flatMap fun a => (f a.1).issues.map (Issue.under [.place a.2]) := by
  induction as generalizing place with
  | nil => rfl
  | cons a as ih =>
    rw [Checked.traverse, issues_seq, issues_map, issues_under, ih, List.zipIdx_cons,
      List.flatMap_cons]

end Issues

section ToOption

theorem toOption_map (f : α → β) (x : Checked α) : (f <$> x).toOption = x.toOption.map f := by
  cases x <;> rfl

theorem toOption_seq (f : Checked (α → β)) (x : Checked α) :
    (f <*> x).toOption = f.toOption.bind fun g => x.toOption.map g := by
  cases f <;> cases x <;> rfl

theorem toOption_under (steps : List Step) (x : Checked α) :
    (x.under steps).toOption = x.toOption := by
  cases x <;> rfl

theorem toOption_traverse (f : α → Checked β) (place : Nat) (as : List α) :
    (Checked.traverse f place as).toOption = as.mapM fun a => (f a).toOption := by
  induction as generalizing place with
  | nil => rfl
  | cons a as ih =>
    rw [Checked.traverse, toOption_seq, toOption_map, toOption_under, ih, List.mapM_cons]
    cases (f a).toOption with
    | none => rfl
    | some b => cases as.mapM fun a => (f a).toOption <;> rfl

end ToOption

end Checked

namespace Decoder

variable {α : Type}

/-- The value of a field, under the spelling that is used for it. -/
def FieldName.value? (name : FieldName) (fs : Fields) : Option Value := (name.find? fs).map (·.2)

theorem FieldName.value?_eq (name : FieldName) (fs : Fields) :
    name.value? fs = (OrderedMap.get? fs (.str name.preferred)).or
      (OrderedMap.get? fs (.str name.other)) := by
  rw [value?, find?]
  cases OrderedMap.get? fs (.str name.preferred) with
  | some v => rfl
  | none => cases OrderedMap.get? fs (.str name.other) <;> rfl

theorem FieldName.find?_coe (s : String) (fs : Fields) :
    find? s fs = (OrderedMap.get? fs (.str s)).map fun v => (s, v) := by
  cases h : OrderedMap.get? fs (.str s) <;> simp [find?, h]

theorem toOption_required (fs : Fields) (name : FieldName) (d : Decoder α) :
    (required fs name d).toOption = (name.value? fs).bind fun v => (d v).toOption := by
  rw [required, FieldName.value?]
  cases name.find? fs with
  | none => rfl
  | some p => exact Checked.toOption_under _ _

theorem toOption_optional (fs : Fields) (name : FieldName) (d : Decoder α) (default : α) :
    (optional fs name d default).toOption =
      (name.value? fs).elim (some default) fun v => (d v).toOption := by
  rw [optional, FieldName.value?]
  cases name.find? fs with
  | none => rfl
  | some p => exact Checked.toOption_under _ _

theorem toOption_orNothing (d : Decoder α) (v : Value) :
    (orNothing d v).toOption =
      if v.isNull then some none else (d v).toOption.map some := by
  cases v with
  | null => rfl
  | _ => exact Checked.toOption_map _ _

theorem FieldName.exists_mem_of_find? {name : FieldName} {fs : Fields} {p : String × Value}
    (h : name.find? fs = some p) : ∃ k, (k, p.2) ∈ fs := by
  rw [find?] at h
  split at h
  case h_1 v hv =>
    obtain rfl := Option.some.inj h
    exact OrderedMap.exists_mem_of_get? hv
  case h_2 =>
    obtain ⟨v, hv, rfl⟩ := Option.map_eq_some_iff.mp h
    exact OrderedMap.exists_mem_of_get? hv

theorem optional_eq_ok {fs : Fields} {name : FieldName} {d : Decoder α} {default a : α} :
    optional fs name d default = .ok a ↔
      name.find? fs = none ∧ default = a ∨ ∃ p, name.find? fs = some p ∧ d p.2 = .ok a := by
  cases h : name.find? fs with
  | none => simp [optional, h]
  | some p => simp [optional, h, Checked.under_eq_ok]

/-- What holds of the default and of all that can be read holds of an optional field. -/
theorem of_optional {P : α → Prop} {fs : Fields} {name : FieldName} {d : Decoder α}
    {default a : α} (h : optional fs name d default = .ok a) (hdefault : P default)
    (hread : ∀ v, d v = .ok a → P a) : P a := by
  rcases optional_eq_ok.mp h with ⟨-, rfl⟩ | ⟨p, -, hp⟩
  · exact hdefault
  · exact hread p.2 hp

theorem required_eq_ok {fs : Fields} {name : FieldName} {d : Decoder α} {a : α} :
    required fs name d = .ok a ↔ ∃ p, name.find? fs = some p ∧ d p.2 = .ok a := by
  cases h : name.find? fs with
  | none => simp [required, h]
  | some p => simp [required, h, Checked.under_eq_ok]

theorem required_coe_eq_ok {fs : Fields} {name : String} {d : Decoder α} {a : α} :
    required fs name d = .ok a ↔
      ∃ v, OrderedMap.get? fs (.str name) = some v ∧ d v = .ok a := by
  rw [required_eq_ok, FieldName.find?_coe]
  simp

theorem optional_coe_eq_ok {fs : Fields} {name : String} {d : Decoder α} {default a : α} :
    optional fs name d default = .ok a ↔
      (∃ v, OrderedMap.get? fs (.str name) = some v ∧ d v = .ok a) ∨
        OrderedMap.get? fs (.str name) = none ∧ default = a := by
  rw [optional_eq_ok, FieldName.find?_coe, or_comm]
  simp

theorem orNothing_of_not_null {d : Decoder α} {v : Value} (h : v.isNull = false) :
    orNothing d v = (d v).map some := by
  cases v <;> simp_all [orNothing, Value.isNull]

section Values

variable {β : Type} {P : α → Prop} {d : Decoder α}

theorem eq_none_or_of_optional_orNothing {fs : Fields} {name : FieldName} {o : Option α}
    (h : optional fs name (orNothing d) none = .ok o) :
    o = none ∨ ∃ v a, d v = .ok a ∧ o = some a := by
  rcases optional_eq_ok.mp h with ⟨-, rfl⟩ | ⟨⟨_, v⟩, -, hv⟩
  · exact .inl rfl
  · by_cases hnull : v.isNull
    · cases v <;> simp_all [Value.isNull, orNothing]
    · rw [orNothing_of_not_null (by simpa using hnull)] at hv
      obtain ⟨a, ha, rfl⟩ := Checked.checked_map_eq_ok.mp hv
      exact .inr ⟨v, a, ha, rfl⟩

theorem forall_mem_entries [BEq β] {key : Decoder β} (hd : ∀ v a, d v = .ok a → P a)
    {es : List (Key × Value)} {ps : List (β × α)} (h : entries key d es = .ok ps) :
    ∀ p ∈ ps, P p.2 := by
  induction es generalizing ps with
  | nil =>
    obtain rfl := Checked.ok.inj h
    simp
  | cons e es ih =>
    obtain ⟨k, v⟩ := e
    rw [entries.eq_def] at h
    obtain ⟨_, ps, hp, hps, rfl⟩ := Checked.seq_eq_ok.mp h
    obtain ⟨_, hentry, rfl⟩ := Checked.map_eq_ok.mp hp
    obtain ⟨_, a, hk, ha, rfl⟩ := Checked.seq_eq_ok.mp hentry
    obtain ⟨_, -, rfl⟩ := Checked.map_eq_ok.mp hk
    exact List.forall_mem_cons.mpr ⟨hd _ a (Checked.under_eq_ok.mp ha), ih hps⟩

theorem forall_mem_map [BEq β] {key : Decoder β} (hd : ∀ v a, d v = .ok a → P a)
    {v : Value} {m : OrderedMap β α} (h : map key d v = .ok m) : ∀ p ∈ m, P p.2 := by
  cases v <;> simp only [map, Checked.fail, reduceCtorEq] at h
  case map es =>
    obtain ⟨ps, hps, rfl⟩ := Checked.checked_map_eq_ok.mp h
    exact OrderedMap.forall_mem_ofList (forall_mem_entries hd hps)

end Values

end Decoder

end BuildingQuery
