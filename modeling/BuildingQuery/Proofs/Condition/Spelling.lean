import BuildingQuery.Proofs.Condition.Origin
import BuildingQuery.Proofs.Json.RoundTrip
import Mathlib.Logic.Relation

/-! Documents in either spelling of the field names. Whichever spelling each field of each condition
takes, the same condition is read, or none. -/

namespace BuildingQuery

open Checked Decoder

/-- The fields of conditions that have two spellings. -/
def doubleNames : List FieldName := [
  ⟨"entityType", "entity_type"⟩,
  ⟨"includeSubtypes", "include_subtypes"⟩,
  ⟨"predefinedType", "predefined_type"⟩,
  ⟨"propertySet", "property_set"⟩,
  ⟨"propertyName", "property_name"⟩,
  ⟨"valueTo", "value_to"⟩,
  ⟨"quantitySet", "quantity_set"⟩,
  ⟨"quantityName", "quantity_name"⟩,
  ⟨"minThickness", "min_thickness"⟩,
  ⟨"maxThickness", "max_thickness"⟩]

/-- The fields of conditions that have one spelling. -/
def singleNames : List FieldName := ["type", "conditions", "operator", "value", "level", "name",
  "elevation", "system", "code", "attribute", "relation", "target"]

def around (pre : Fields) (s : String) (v : Value) (post : Fields) : Fields :=
  pre ++ (.str s, v) :: post

/-- One field of a record takes its other spelling. It comes nowhere else in the record. -/
inductive RespellsField : Fields → Fields → Prop where
  | intro {n : FieldName} (hn : n ∈ doubleNames) {pre post : Fields} (v : Value)
      (hpre : n.value? pre = none) (hpost : n.value? post = none) :
      RespellsField (around pre n.preferred v post) (around pre n.other v post)

namespace Condition

/-- One field in the document of a condition takes its other spelling: a field of a condition of a
known kind, of its elevation, or of one of its members. -/
inductive Respells : Value → Value → Prop where
  | field {fs gs : Fields} (hk : ConditionTag.ofFields fs ≠ .unknown) (h : RespellsField fs gs) :
      Respells (.map fs) (.map gs)
  | elevation {pre post fs gs : Fields}
      (hk : ConditionTag.ofFields (around pre "elevation" (.map fs) post) = .spatial)
      (h : RespellsField fs gs) :
      Respells (.map (around pre "elevation" (.map fs) post))
        (.map (around pre "elevation" (.map gs) post))
  | member {pre post : Fields} {vs ws : List Value} {v w : Value} {kind : GroupKind}
      (hk : ConditionTag.ofFields (around pre "conditions" (.list (vs ++ v :: ws)) post) =
        .group kind)
      (h : Respells v w) :
      Respells (.map (around pre "conditions" (.list (vs ++ v :: ws)) post))
        (.map (around pre "conditions" (.list (vs ++ w :: ws)) post))

end Condition

/-- One field in the document of a condition of a rule takes its other spelling. -/
inductive Rule.Respells : Value → Value → Prop where
  | condition {pre post : Fields} {vs ws : List Value} {v w : Value} (h : Condition.Respells v w) :
      Respells (.map (around pre "conditions" (.list (vs ++ v :: ws)) post))
        (.map (around pre "conditions" (.list (vs ++ w :: ws)) post))

section Fields

variable {fs gs : Fields} {n m : FieldName}

theorem get?_around_self (pre post : Fields) (s : String) (v : Value) :
    OrderedMap.get? (around pre s v post) (.str s) =
      (OrderedMap.get? pre (.str s)).or (some v) := by
  have hkey : (Key.str s == Key.str s) = true := by simp [Key.beq_str]
  rw [around, OrderedMap.get?_append_cons, if_pos hkey]

theorem get?_around_of_ne {s t : String} (ht : t ≠ s) (pre post : Fields) (v : Value) :
    OrderedMap.get? (around pre s v post) (.str t) = OrderedMap.get? (pre ++ post) (.str t) := by
  have hkey : (Key.str t == Key.str s) = false := by simpa [Key.beq_str] using ht
  rw [around, OrderedMap.get?_append_cons, hkey, if_neg Bool.false_ne_true]
  exact List.lookup_append.symm

theorem value?_around_of_ne {s : String} (hp : n.preferred ≠ s) (ho : n.other ≠ s)
    (pre post : Fields) (v : Value) :
    n.value? (around pre s v post) = n.value? (pre ++ post) := by
  rw [FieldName.value?_eq, FieldName.value?_eq, get?_around_of_ne hp, get?_around_of_ne ho]

/-- Fields with two spellings share neither of them with another field. -/
theorem spellings_apart : ∀ n ∈ doubleNames, ∀ m ∈ doubleNames ++ singleNames,
    (m.preferred = n.preferred ∧ m.other = n.other) ∨
      (m.preferred ≠ n.preferred ∧ m.other ≠ n.preferred) ∧
        (m.preferred ≠ n.other ∧ m.other ≠ n.other) := by
  decide +kernel

theorem get?_of_value?_eq_none (h : n.value? fs = none) :
    OrderedMap.get? fs (.str n.preferred) = none ∧ OrderedMap.get? fs (.str n.other) = none := by
  rw [FieldName.value?_eq, Option.or_eq_none_iff] at h
  exact h

theorem value?_around_preferred {pre : Fields} (hpre : n.value? pre = none) (v : Value)
    (post : Fields) : n.value? (around pre n.preferred v post) = some v := by
  rw [FieldName.value?_eq, get?_around_self, (get?_of_value?_eq_none hpre).1]
  rfl

theorem value?_around_other {pre post : Fields} (hpre : n.value? pre = none) (v : Value)
    (hpost : n.value? post = none) : n.value? (around pre n.other v post) = some v := by
  have hother : OrderedMap.get? (around pre n.other v post) (.str n.other) = some v := by
    rw [get?_around_self, (get?_of_value?_eq_none hpre).2]
    rfl
  -- The first spelling may be the second one, too.
  by_cases hsame : n.preferred = n.other
  · rw [FieldName.value?_eq, hsame, hother]
    rfl
  · have hpreferred : OrderedMap.get? (around pre n.other v post) (.str n.preferred) = none := by
      rw [get?_around_of_ne hsame, OrderedMap.get?, List.lookup_append]
      exact Option.or_eq_none_iff.mpr
        ⟨(get?_of_value?_eq_none hpre).1, (get?_of_value?_eq_none hpost).1⟩
    rw [FieldName.value?_eq, hpreferred, hother]
    rfl

/-- All fields have the same values in both records. -/
def SameValues (fs gs : Fields) : Prop :=
  ∀ m ∈ doubleNames ++ singleNames, m.value? fs = m.value? gs

theorem RespellsField.sameValues (h : RespellsField fs gs) : SameValues fs gs := by
  obtain ⟨hn, v, hpre, hpost⟩ := h
  rename_i n pre post
  intro m hm
  rcases spellings_apart n hn m hm with ⟨hp, ho⟩ | ⟨⟨hp, ho⟩, hp', ho'⟩
  · obtain rfl : m = n := by
      cases m
      cases n
      subst hp ho
      rfl
    rw [value?_around_preferred hpre, value?_around_other hpre v hpost]
  · rw [value?_around_of_ne hp ho, value?_around_of_ne hp' ho']

theorem value?_plain (s : String) (fs : Fields) :
    FieldName.value? s fs = OrderedMap.get? fs (.str s) := by
  rw [FieldName.value?_eq, Option.or_self]

theorem SameValues.tag_eq (h : SameValues fs gs) :
    ConditionTag.ofFields fs = ConditionTag.ofFields gs := by
  have htype := h "type" (by simp [singleNames])
  rw [value?_plain, value?_plain] at htype
  rw [ConditionTag.ofFields, htype, ConditionTag.ofFields]

end Fields

section Reading

variable {o : Origin} {fs gs : Fields}

theorem ElevationTest.toOption_decoder (h : SameValues fs gs) :
    (ElevationTest.decoder o (.map fs)).toOption =
      (ElevationTest.decoder o (.map gs)).toOption := by
  simp only [SameValues, doubleNames, singleNames, List.cons_append, List.nil_append,
    List.forall_mem_cons] at h
  simp only [ElevationTest.decoder, record, upperField, toOption_seq, toOption_map,
    toOption_required, toOption_optional, h]

theorem Condition.toOption_read (h : SameValues fs gs) (hk : ConditionTag.ofFields fs ≠ .unknown) :
    (Condition.read o (.map fs)).toOption = (Condition.read o (.map gs)).toOption := by
  rw [read, read, toOption_under, toOption_under, ← h.tag_eq]
  simp only [SameValues, doubleNames, singleNames, List.cons_append, List.nil_append,
    List.forall_mem_cons] at h
  cases ht : ConditionTag.ofFields fs with
  | unknown => exact absurd ht hk
  | _ =>
    simp only [TypeTest.ofFields, PropertyTest.ofFields, SpatialTest.ofFields,
      MaterialTest.ofFields, ClassificationTest.ofFields, AttributeTest.ofFields,
      QuantityTest.ofFields, RelationTest.ofFields, upperField, readMembers_eq_optional,
      toOption_seq, toOption_map, toOption_required, toOption_optional, h]

section Around

variable {α : Type} {pre post : Fields} {s : String} {v w : Value}

theorem value?_around (m : FieldName) (hp : m.preferred ≠ s) (ho : m.other ≠ s)
    (v w : Value) : m.value? (around pre s v post) = m.value? (around pre s w post) := by
  rw [value?_around_of_ne hp ho, value?_around_of_ne hp ho]

theorem tag_around (hs : "type" ≠ s) (v w : Value) :
    ConditionTag.ofFields (around pre s v post) = ConditionTag.ofFields (around pre s w post) := by
  have htype : FieldName.value? "type" (around pre s v post) =
      FieldName.value? "type" (around pre s w post) := value?_around _ hs hs v w
  rw [value?_plain, value?_plain] at htype
  rw [ConditionTag.ofFields, htype, ConditionTag.ofFields]

theorem toOption_optional_around {d : Decoder α} (hd : (d v).toOption = (d w).toOption)
    (default : α) :
    (optional (around pre s v post) s d default).toOption =
      (optional (around pre s w post) s d default).toOption := by
  rw [toOption_optional, toOption_optional, value?_plain, value?_plain, get?_around_self,
    get?_around_self]
  cases OrderedMap.get? pre (.str s) with
  | none => exact hd
  | some x => rfl

theorem Condition.toOption_read_elevation
    (hk : ConditionTag.ofFields (around pre "elevation" (.map fs) post) = .spatial)
    (h : SameValues fs gs) :
    (Condition.read o (.map (around pre "elevation" (.map fs) post))).toOption =
      (Condition.read o (.map (around pre "elevation" (.map gs) post))).toOption := by
  have hk' := (tag_around (by decide) (.map gs) (.map fs)).trans hk
  have helevation : (orNothing (ElevationTest.decoder o) (.map fs)).toOption =
      (orNothing (ElevationTest.decoder o) (.map gs)).toOption := by
    rw [toOption_orNothing, toOption_orNothing, ElevationTest.toOption_decoder h]
    rfl
  simp only [read, hk, hk', toOption_under, toOption_map, toOption_seq, SpatialTest.ofFields]
  rw [toOption_optional_around helevation]
  simp only [toOption_required, toOption_optional]
  rw [value?_around "level" (by decide) (by decide) (.map fs) (.map gs),
    value?_around "name" (by decide) (by decide) (.map fs) (.map gs)]

theorem Condition.toOption_tuple_read (vs ws : List Value)
    (h : (Condition.read o v).toOption = (Condition.read o w).toOption) :
    (tuple (Condition.read o) (.list (vs ++ v :: ws))).toOption =
      (tuple (Condition.read o) (.list (vs ++ w :: ws))).toOption := by
  simp only [tuple, toOption_traverse, List.mapM_append, List.mapM_cons, h]

theorem Condition.toOption_read_member {vs ws : List Value} {kind : GroupKind}
    (hk : ConditionTag.ofFields (around pre "conditions" (.list (vs ++ v :: ws)) post) =
      .group kind)
    (h : (Condition.read o v).toOption = (Condition.read o w).toOption) :
    (Condition.read o (.map (around pre "conditions" (.list (vs ++ v :: ws)) post))).toOption =
      (Condition.read o
        (.map (around pre "conditions" (.list (vs ++ w :: ws)) post))).toOption := by
  have hk' := (tag_around (by decide) (.list (vs ++ w :: ws)) (.list (vs ++ v :: ws))).trans hk
  simp only [read, hk, hk', toOption_under, toOption_map, readMembers_eq_optional]
  rw [toOption_optional_around (toOption_tuple_read vs ws h)]

end Around

theorem Condition.Respells.toOption_read {v w : Value} (h : Respells v w) (o : Origin) :
    (Condition.read o v).toOption = (Condition.read o w).toOption := by
  induction h with
  | field hk h => exact Condition.toOption_read h.sameValues hk
  | elevation hk h => exact toOption_read_elevation hk h.sameValues
  | member hk _ ih => exact toOption_read_member hk ih

theorem Rule.Respells.toOption_decoder {v w : Value} (h : Respells v w) (o : Origin) :
    (decoder o v).toOption = (decoder o w).toOption := by
  obtain @⟨pre, post, vs, ws, v, w, h⟩ := h
  have hmembers := Condition.toOption_tuple_read vs ws (h.toOption_read o)
  have hother (m : FieldName) (hp : m.preferred ≠ "conditions") (ho : m.other ≠ "conditions") :
      m.value? (around pre "conditions" (.list (vs ++ v :: ws)) post) =
        m.value? (around pre "conditions" (.list (vs ++ w :: ws)) post) :=
    value?_around m hp ho _ _
  simp only [decoder, record, toOption_seq, toOption_map]
  rw [toOption_optional_around hmembers]
  simp only [toOption_required, toOption_optional]
  rw [hother "id" (by decide) (by decide), hother "name" (by decide) (by decide),
    hother "description" (by decide) (by decide), hother "mode" (by decide) (by decide)]

end Reading

/-- Documents that differ in the spelling of fields only, each field for itself, are read as the
same condition or rule, or are both refused. Conditions of unknown kinds keep their fields as they
are spelled. -/
theorem read_respelled :
    (∀ (o : Origin) v w, Relation.EqvGen Condition.Respells v w →
      (Condition.read o v).toOption = (Condition.read o w).toOption) ∧
    ∀ v w, Relation.EqvGen Rule.Respells v w →
      (Rule.read v).toOption = (Rule.read w).toOption ∧
      ∀ s t, Json.read? s = some v → Json.read? t = some w →
        (Rule.read (.str s)).toOption = (Rule.read (.str t)).toOption := by
  constructor
  · intro o v w h
    have hstep : ∀ v w, Condition.Respells v w →
        (Condition.read o v).toOption = (Condition.read o w).toOption :=
      fun _ _ h => h.toOption_read o
    -- What each step keeps is a function of the class of the document.
    exact congrArg (Quot.lift _ hstep) (Quot.eqvGen_sound h)
  · intro v w h
    have hread : ∀ v w, Rule.Respells v w → (Rule.read v).toOption = (Rule.read w).toOption := by
      intro v w h
      have hdecoder := h.toOption_decoder .plain
      cases h
      exact hdecoder
    have hstep : ∀ v w, Rule.Respells v w →
        (Rule.decoder .json v).toOption = (Rule.decoder .json w).toOption :=
      fun _ _ h => h.toOption_decoder .json
    refine ⟨congrArg (Quot.lift _ hread) (Quot.eqvGen_sound h), fun s t hs ht => ?_⟩
    have hjson := congrArg (Quot.lift _ hstep) (Quot.eqvGen_sound h)
    simpa only [Rule.read, Rule.ofJson, hs, ht] using hjson

/-- A test of a quantity, with the quantity set under a given name. -/
def lengthBetween (setName : String) : Value :=
  .map (around [("type", .str "quantity")] setName (.str "BaseQuantities")
    [("quantity_name", .str "Length"), ("operator", .str "between"), ("value", .int 1),
      ("valueTo", .int 5)])

/-- A test of the elevation of the storey, with the upper bound under a given name. -/
def elevationBetween (boundName : String) : Value :=
  .map (around [("type", .str "spatial"), ("level", .str "storey")] "elevation"
    (.map (around [("operator", .str "between"), ("value", .int 0)] boundName (.int 3) [])) [])

def rejectsAndHas (rejected had : Value) : Value :=
  .map (around [("id", .str "r"), ("name", .str "Mixed")] "conditions"
    (.list [.map (around [("type", .str "not")] "conditions" (.list [rejected]) []), had]) [])

theorem respells_lengthBetween :
    Condition.Respells (lengthBetween "quantitySet") (lengthBetween "quantity_set") := by
  refine .field nofun ?_
  exact .intro (n := ⟨"quantitySet", "quantity_set"⟩) (by simp [doubleNames]) _ rfl rfl

theorem respells_elevationBetween :
    Condition.Respells (elevationBetween "valueTo") (elevationBetween "value_to") := by
  refine .elevation rfl ?_
  exact .intro (n := ⟨"valueTo", "value_to"⟩) (by simp [doubleNames]) _ rfl rfl

theorem isData_lengthBetween {setName : String} (h : setName ∈ ["quantitySet", "quantity_set"]) :
    (lengthBetween setName).IsData := by
  have hdata : (Value.record [("type", .str "quantity"), (setName, .str "BaseQuantities"),
      ("quantity_name", .str "Length"), ("operator", .str "between"), ("value", .int 1),
      ("valueTo", .int 5)]).IsData := by
    refine .map ?_ (by simpa using ⟨.str _, .str _, .str _, .str _, .int _, .int _⟩)
    rcases List.mem_pair.mp h with rfl | rfl <;> simp
  exact hdata

theorem isData_elevationBetween {boundName : String} (h : boundName ∈ ["valueTo", "value_to"]) :
    (elevationBetween boundName).IsData := by
  have hfilter : (Value.record [("operator", .str "between"), ("value", .int 0),
      (boundName, .int 3)]).IsData := by
    refine .map ?_ (by simpa using ⟨.str _, .int _, .int _⟩)
    rcases List.mem_pair.mp h with rfl | rfl <;> simp
  have hdata : (Value.record [("type", .str "spatial"), ("level", .str "storey"),
      ("elevation", .record [("operator", .str "between"), ("value", .int 0),
        (boundName, .int 3)])]).IsData :=
    .map (by simp) (by simpa using ⟨.str _, .str _, hfilter⟩)
  exact hdata

section RejectsAndHas

variable {u v w : Value}

theorem isData_rejectsAndHas (hv : v.IsData) (hu : u.IsData) : (rejectsAndHas v u).IsData := by
  have hgroup : (Value.record [("type", .str "not"), ("conditions", .list [v])]).IsData :=
    .map (by simp) (by simpa using ⟨.str _, .list (by simpa using hv)⟩)
  have hdata : (Value.record [("id", .str "r"), ("name", .str "Mixed"), ("conditions",
      .list [.record [("type", .str "not"), ("conditions", .list [v])], u])]).IsData :=
    .map (by simp) (by simpa using ⟨.str _, .str _, .list (by simpa using ⟨hgroup, hu⟩)⟩)
  exact hdata

theorem respells_rejected (h : Condition.Respells v w) :
    Rule.Respells (rejectsAndHas v u) (rejectsAndHas w u) := by
  have hgroup : Condition.Respells
      (.map (around [("type", .str "not")] "conditions" (.list [v]) []))
      (.map (around [("type", .str "not")] "conditions" (.list [w]) [])) :=
    @Condition.Respells.member _ _ [] [] v w .none rfl h
  exact @Rule.Respells.condition [("id", .str "r"), ("name", .str "Mixed")] [] [] [u] _ _ hgroup

theorem respells_had (h : Condition.Respells v w) :
    Rule.Respells (rejectsAndHas u v) (rejectsAndHas u w) :=
  @Rule.Respells.condition [("id", .str "r"), ("name", .str "Mixed")] []
    [.map (around [("type", .str "not")] "conditions" (.list [u]) [])] [] _ _ h

end RejectsAndHas

def bothTests (setName boundName : String) : Value :=
  rejectsAndHas (lengthBetween setName) (elevationBetween boundName)

theorem isData_bothTests {setName boundName : String}
    (hs : setName ∈ ["quantitySet", "quantity_set"]) (hb : boundName ∈ ["valueTo", "value_to"]) :
    (bothTests setName boundName).IsData :=
  isData_rejectsAndHas (isData_lengthBetween hs) (isData_elevationBetween hb)

/-- Of two fields of one name, one takes the other spelling and the other does not: the documents,
and their texts, give the same rule. -/
theorem read_respelled_bothTests :
    (Condition.read .plain (lengthBetween "quantitySet")).toOption =
        (Condition.read .plain (lengthBetween "quantity_set")).toOption ∧
      Relation.EqvGen Rule.Respells
        (bothTests "quantitySet" "valueTo") (bothTests "quantity_set" "value_to") ∧
      (Rule.read (bothTests "quantitySet" "valueTo")).toOption.isSome = true ∧
      (Rule.read (bothTests "quantitySet" "valueTo")).toOption =
        (Rule.read (bothTests "quantity_set" "value_to")).toOption ∧
      (Rule.read (.str (Json.text none (bothTests "quantitySet" "valueTo")))).toOption =
        (Rule.read (.str (Json.text none (bothTests "quantity_set" "value_to")))).toOption := by
  have h : Relation.EqvGen Rule.Respells
      (bothTests "quantitySet" "valueTo") (bothTests "quantity_set" "value_to") :=
    .trans _ _ _ (.rel _ _ (respells_rejected respells_lengthBetween))
      (.rel _ _ (respells_had respells_elevationBetween))
  have hs := Json.read?_text
    (isData_bothTests (.head ["quantity_set"]) (.head ["value_to"])) none
  have ht := Json.read?_text
    (isData_bothTests (.tail "quantitySet" (.head [])) (.tail "valueTo" (.head []))) none
  have hcondition := read_respelled.1 .plain _ _ (.rel _ _ respells_lengthBetween)
  obtain ⟨hread, htext⟩ := read_respelled.2 _ _ h
  exact ⟨hcondition, h, by rfl, hread, htext _ _ hs ht⟩

end BuildingQuery
