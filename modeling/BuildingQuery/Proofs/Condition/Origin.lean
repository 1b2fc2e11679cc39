import BuildingQuery.Proofs.Condition.RoundTrip
import BuildingQuery.Proofs.Number.Range
import BuildingQuery.Proofs.OrderedMap

/-! Conditions and rules from plain data and from JSON text. Both are read alike, but for integers
too large for a float that stand where a float is read: only in JSON text they are infinities. -/

namespace BuildingQuery

namespace Checked

variable {α β : Type} {b c : Prop}

/-- Two checks give the same, except that the first gives nothing if `b` holds. -/
def AgreeUnless (b : Prop) (x y : Checked α) : Prop := ∀ a, x = .ok a ↔ y = .ok a ∧ ¬ b

variable {x y : Checked α}

theorem AgreeUnless.congr (h : AgreeUnless b x y) (hbc : b ↔ c) : AgreeUnless c x y :=
  fun a => by rw [h a, hbc]

theorem agreeUnless_rfl (x : Checked α) : AgreeUnless False x x := fun a => by simp

theorem AgreeUnless.map (h : AgreeUnless b x y) (f : α → β) :
    AgreeUnless b (f <$> x) (f <$> y) := by
  intro a
  simp only [map_eq_ok, h _]
  constructor
  · rintro ⟨a, ⟨hy, hb⟩, ha⟩
    exact ⟨⟨a, hy, ha⟩, hb⟩
  · rintro ⟨⟨a, hy, ha⟩, hb⟩
    exact ⟨a, ⟨hy, hb⟩, ha⟩

theorem AgreeUnless.seq {f g : Checked (α → β)} (hf : AgreeUnless b f g) (hx : AgreeUnless c x y) :
    AgreeUnless (b ∨ c) (f <*> x) (g <*> y) := by
  intro a
  simp only [seq_eq_ok, hf _, hx _, not_or]
  constructor
  · rintro ⟨k, a, ⟨hg, hb⟩, ⟨hy, hc⟩, ha⟩
    exact ⟨⟨k, a, hg, hy, ha⟩, hb, hc⟩
  · rintro ⟨⟨k, a, hg, hy, ha⟩, hb, hc⟩
    exact ⟨k, a, ⟨hg, hb⟩, ⟨hy, hc⟩, ha⟩

theorem AgreeUnless.under (h : AgreeUnless b x y) (steps : List Step) :
    AgreeUnless b (x.under steps) (y.under steps) := fun a => by
  simpa only [under_eq_ok] using h a

theorem AgreeUnless.traverse {f g : α → Checked β} {B : α → Prop} {as : List α}
    (h : ∀ a ∈ as, AgreeUnless (B a) (f a) (g a)) (place : Nat) :
    AgreeUnless (∃ a ∈ as, B a) (Checked.traverse f place as) (Checked.traverse g place as) := by
  induction as generalizing place with
  | nil => exact (agreeUnless_rfl _).congr (by simp)
  | cons a as ih =>
    obtain ⟨ha, has⟩ := List.forall_mem_cons.mp h
    refine (((ha.under _).map List.cons).seq (ih has (place + 1))).congr ?_
    simp

end Checked

open Checked Decoder

section Fields

variable {α : Type} {fs : Fields} {name : FieldName} {B : Value → Prop} {d d' : Decoder α}

/-- A field is there, and its value is of a kind. -/
def FieldHolds (fs : Fields) (name : FieldName) (B : Value → Prop) : Prop :=
  ∃ p, name.find? fs = some p ∧ B p.2

theorem agreeUnless_required (h : ∀ v, AgreeUnless (B v) (d v) (d' v)) :
    AgreeUnless (FieldHolds fs name B) (required fs name d) (required fs name d') := by
  rw [FieldHolds, required, required]
  split
  case h_1 used v hf => exact ((h v).under _).congr (by simp [hf])
  case h_2 hf => exact (agreeUnless_rfl _).congr (by simp [hf])

theorem agreeUnless_optional
    (h : ∀ used v, name.find? fs = some (used, v) → AgreeUnless (B v) (d v) (d' v))
    (default : α) :
    AgreeUnless (FieldHolds fs name B) (optional fs name d default)
      (optional fs name d' default) := by
  rw [FieldHolds, Decoder.optional, Decoder.optional]
  split
  case h_1 used v hf => exact ((h used v hf).under _).congr (by simp [hf])
  case h_2 hf => exact (agreeUnless_rfl _).congr (by simp [hf])

theorem agreeUnless_orNothing (h : ∀ v, AgreeUnless (B v) (d v) (d' v)) (hn : ¬ B .null)
    (v : Value) : AgreeUnless (B v) (orNothing d v) (orNothing d' v) := by
  cases hv : v.isNull with
  | true =>
    obtain rfl : v = .null := by
      cases v <;> first | rfl | nomatch hv
    exact (agreeUnless_rfl _).congr (by simp [hn])
  | false =>
    rw [orNothing_of_not_null hv, orNothing_of_not_null hv]
    exact (h v).map some

end Fields

/-- An integer too large for a float. -/
def Value.IsHugeInteger (v : Value) : Prop := ∃ n, v = .int n ∧ Number.floatLimit ≤ n.natAbs

theorem Value.not_isHugeInteger_null : ¬ Value.null.IsHugeInteger := by simp [IsHugeInteger]

theorem Decoder.agreeUnless_float (v : Value) :
    AgreeUnless v.IsHugeInteger (float .plain v) (float .json v) := by
  cases v with
  | int n =>
    intro x
    have hhuge : (Value.int n).IsHugeInteger ↔ Number.ofInt? n = none := by
      simp [Value.IsHugeInteger, Number.ofInt?_eq_none_iff]
    cases hn : Number.ofInt? n with
    | some y => simp [float, hhuge, hn]
    | none => simp [float, hhuge, hn, fail]
  | _ => exact (agreeUnless_rfl _).congr (by simp [Value.IsHugeInteger])

/-- The spellings of the upper end of a range. -/
def upperName : FieldName := ⟨"valueTo", "value_to"⟩

/-- The fields of a condition in which a float is read. -/
def ConditionTag.floatFields : ConditionTag → List FieldName
  | .property => [upperName]
  | .material => [⟨"minThickness", "min_thickness"⟩, ⟨"maxThickness", "max_thickness"⟩]
  | .quantity => ["value", upperName]
  | _ => []

def ElevationTest.floatFields : List FieldName := ["value", upperName]

section Records

variable {fs : Fields} {name : FieldName}

theorem agreeUnless_requiredFloat : AgreeUnless (FieldHolds fs name Value.IsHugeInteger)
    (required fs name (float .plain)) (required fs name (float .json)) :=
  agreeUnless_required agreeUnless_float

theorem agreeUnless_optionalFloat : AgreeUnless (FieldHolds fs name Value.IsHugeInteger)
    (optional fs name (orNothing (float .plain)) none)
    (optional fs name (orNothing (float .json)) none) :=
  agreeUnless_optional
    (fun _ v _ => agreeUnless_orNothing agreeUnless_float Value.not_isHugeInteger_null v) none

/-- Some of the fields holds an integer too large for a float. -/
def HasHugeField (fs : Fields) (names : List FieldName) : Prop :=
  ∃ name ∈ names, FieldHolds fs name Value.IsHugeInteger

theorem PropertyTest.agreeUnless_ofFields :
    AgreeUnless (HasHugeField fs ConditionTag.property.floatFields)
      (ofFields .plain fs) (ofFields .json fs) := by
  refine ((agreeUnless_rfl _).seq agreeUnless_optionalFloat).congr ?_
  simp [HasHugeField, ConditionTag.floatFields, upperName]

theorem ElevationTest.agreeUnless_decoder (v : Value) :
    AgreeUnless (∃ fs, v = .map fs ∧ HasHugeField fs floatFields)
      (decoder .plain v) (decoder .json v) := by
  cases v with
  | map fs =>
    refine ((((agreeUnless_rfl _).map _).seq agreeUnless_requiredFloat).seq
      agreeUnless_optionalFloat).congr ?_
    simp [HasHugeField, floatFields, upperName]
  | _ =>
    simp only [decoder, record]
    exact (agreeUnless_rfl _).congr (by simp)

theorem SpatialTest.agreeUnless_ofFields :
    AgreeUnless (FieldHolds fs "elevation" fun v =>
        ∃ es, v = .map es ∧ HasHugeField es ElevationTest.floatFields)
      (ofFields .plain fs) (ofFields .json fs) := by
  refine ((agreeUnless_rfl _).seq (agreeUnless_optional (fun _ v _ => agreeUnless_orNothing
    ElevationTest.agreeUnless_decoder ?_ v) none)).congr ?_
  · simp
  · simp

theorem MaterialTest.agreeUnless_ofFields :
    AgreeUnless (HasHugeField fs ConditionTag.material.floatFields)
      (ofFields .plain fs) (ofFields .json fs) := by
  refine (((agreeUnless_rfl _).seq agreeUnless_optionalFloat).seq
    agreeUnless_optionalFloat).congr ?_
  simp [HasHugeField, ConditionTag.floatFields]

theorem QuantityTest.agreeUnless_ofFields :
    AgreeUnless (HasHugeField fs ConditionTag.quantity.floatFields)
      (ofFields .plain fs) (ofFields .json fs) := by
  refine (((agreeUnless_rfl _).seq agreeUnless_requiredFloat).seq
    agreeUnless_optionalFloat).congr ?_
  simp [HasHugeField, ConditionTag.floatFields, upperName]

end Records

namespace Condition

variable {fs : Fields}

/-- An integer too large for a float stands where a float of a condition is read. -/
inductive ReadsHuge : Value → Prop where
  | field {fs : Fields} (h : HasHugeField fs (ConditionTag.ofFields fs).floatFields) :
      ReadsHuge (.map fs)
  | elevation {fs : Fields} (ht : ConditionTag.ofFields fs = .spatial)
      (h : FieldHolds fs "elevation" fun v =>
        ∃ es, v = .map es ∧ HasHugeField es ElevationTest.floatFields) : ReadsHuge (.map fs)
  | member {fs : Fields} {k : GroupKind} (ht : ConditionTag.ofFields fs = .group k)
      {vs : List Value} (hvs : FieldHolds fs "conditions" (· = .list vs)) {v : Value} (hv : v ∈ vs)
      (h : ReadsHuge v) : ReadsHuge (.map fs)

theorem readsHuge_map : ReadsHuge (.map fs) ↔
    HasHugeField fs (ConditionTag.ofFields fs).floatFields ∨
    (ConditionTag.ofFields fs = .spatial ∧ FieldHolds fs "elevation" fun v =>
      ∃ es, v = .map es ∧ HasHugeField es ElevationTest.floatFields) ∨
    ∃ k, ConditionTag.ofFields fs = .group k ∧ FieldHolds fs "conditions" fun v =>
      ∃ vs, v = .list vs ∧ ∃ w ∈ vs, ReadsHuge w := by
  constructor
  · rintro (h | ⟨ht, h⟩ | ⟨ht, ⟨p, hp, hvs⟩, hv, h⟩)
    · exact .inl h
    · exact .inr (.inl ⟨ht, h⟩)
    · exact .inr (.inr ⟨_, ht, p, hp, _, hvs, _, hv, h⟩)
  · rintro (h | ⟨ht, h⟩ | ⟨k, ht, p, hp, vs, hvs, v, hv, h⟩)
    · exact .field h
    · exact .elevation ht h
    · exact .member ht ⟨p, hp, hvs⟩ hv h

theorem readList_eq_tuple (o : Origin) (v : Value) : readList o v = tuple (read o) v := by
  cases v with
  | list vs => exact readAll_eq_traverse vs 0
  | _ => rfl

theorem readMembers_eq_optional (o : Origin) (fs : Fields) :
    readMembers o fs = optional fs "conditions" (tuple (read o)) [] := by
  induction fs with
  | nil => rfl
  | cons f fs ih =>
    obtain ⟨k, v⟩ := f
    have hk : (k == Key.str "conditions") = (Key.str "conditions" == k) := by
      cases k with
      | str s => simp only [Key.beq_str, Bool.beq_comm]
      | _ => rfl
    rw [readMembers, hk, ih, Decoder.optional, Decoder.optional, FieldName.find?_coe,
      FieldName.find?_coe, OrderedMap.get?_cons]
    cases Key.str "conditions" == k with
    | true => simp [readList_eq_tuple]
    | false => rfl

theorem agreeUnless_tuple {v : Value}
    (h : ∀ vs, v = .list vs → ∀ w ∈ vs, AgreeUnless (ReadsHuge w) (read .plain w) (read .json w)) :
    AgreeUnless (∃ vs, v = .list vs ∧ ∃ w ∈ vs, ReadsHuge w)
      (tuple (read .plain) v) (tuple (read .json) v) := by
  cases v with
  | list vs => exact (AgreeUnless.traverse (h vs rfl) 0).congr (by simp)
  | _ =>
    simp only [tuple]
    exact (agreeUnless_rfl _).congr (by simp)

theorem agreeUnless_read (v : Value) :
    AgreeUnless (ReadsHuge v) (read .plain v) (read .json v) := by
  cases v with
  | map fs =>
    rw [read, read]
    refine AgreeUnless.under ?_ _
    cases ht : ConditionTag.ofFields fs with
    | type | classification | attributeText | relation | unknown =>
      refine (agreeUnless_rfl _).congr ?_
      simp [readsHuge_map, ht, ConditionTag.floatFields, HasHugeField]
    | property =>
      refine (PropertyTest.agreeUnless_ofFields.map _).congr ?_
      simp [readsHuge_map, ht]
    | material =>
      refine (MaterialTest.agreeUnless_ofFields.map _).congr ?_
      simp [readsHuge_map, ht]
    | quantity =>
      refine (QuantityTest.agreeUnless_ofFields.map _).congr ?_
      simp [readsHuge_map, ht]
    | spatial =>
      refine (SpatialTest.agreeUnless_ofFields.map _).congr ?_
      simp [readsHuge_map, ht, ConditionTag.floatFields, HasHugeField]
    | group k =>
      simp only [readMembers_eq_optional]
      refine ((agreeUnless_optional (fun _ v hv => agreeUnless_tuple fun vs hvs w hw => ?_) []).map
        _).congr ?_
      · exact agreeUnless_read w
      · simp [readsHuge_map, ht, ConditionTag.floatFields, HasHugeField]
  | _ =>
    simp only [read]
    exact (agreeUnless_rfl _).congr ⟨fun h => h.elim, fun h => nomatch h⟩
termination_by sizeOf v
decreasing_by
  -- A member stands in a list that is the value of a field.
  obtain ⟨k, hk⟩ := FieldName.exists_mem_of_find? hv
  have hfs := List.sizeOf_lt_of_mem hk
  have hw := List.sizeOf_lt_of_mem hw
  simp_all
  omega

end Condition

namespace Rule

/-- An integer too large for a float stands where one of the conditions reads a float. -/
def ReadsHuge (d : Value) : Prop :=
  ∃ fs, d = .map fs ∧ FieldHolds fs "conditions" fun v =>
    ∃ vs, v = .list vs ∧ ∃ w ∈ vs, Condition.ReadsHuge w

theorem agreeUnless_decoder (d : Value) :
    AgreeUnless (ReadsHuge d) (decoder .plain d) (decoder .json d) := by
  cases d with
  | map fs =>
    refine (((agreeUnless_rfl _).seq (agreeUnless_optional (fun _ v _ =>
      Condition.agreeUnless_tuple fun _ _ w _ => Condition.agreeUnless_read w) [])).seq
      (agreeUnless_rfl _)).congr ?_
    simp [ReadsHuge]
  | _ =>
    simp only [decoder, record]
    exact (agreeUnless_rfl _).congr (by simp [ReadsHuge])

end Rule

end BuildingQuery
