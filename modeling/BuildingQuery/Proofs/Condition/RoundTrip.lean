import BuildingQuery.Proofs.Condition.Typed
import BuildingQuery.Proofs.Fields
import BuildingQuery.Proofs.Value.Data

/-! Documents of rules read back as the rules they were written for. Every kind of condition has its
own law; groups follow by induction over the tree. -/

namespace BuildingQuery

open Checked Decoder

theorem Comparison.named?_name (op : Comparison) : named? op.name = some op := by
  cases op <;> rfl

theorem NumberComparison.named?_name (op : NumberComparison) : named? op.name = some op := by
  cases op <;> rfl

theorem TextComparison.named?_name (op : TextComparison) : named? op.name = some op := by
  cases op <;> rfl

theorem SpatialLevel.named?_name (l : SpatialLevel) : named? l.name = some l := by
  cases l <;> rfl

theorem TextAttribute.named?_label (a : TextAttribute) : named? a.label = some a := by
  cases a <;> rfl

theorem RelationKind.named?_name (r : RelationKind) : named? r.name = some r := by
  cases r <;> rfl

theorem GroupKind.named?_name (k : GroupKind) : named? k.name = some k := by
  cases k <;> rfl

theorem RuleMode.named?_name (m : RuleMode) : named? m.name = some m := by
  cases m <;> rfl

theorem Decoder.named_str {α : Type} {named? : String → Option α} {s : String} {a : α}
    (h : named? s = some a) : named named? (.str s) = .ok a := by
  rw [named, h]

theorem TypeNames.document_not_null (ns : TypeNames) : ns.document.isNull = false := by
  cases ns <;> rfl

theorem TypeTest.namesDecoder_document (ns : TypeNames) :
    namesDecoder ns.document = .ok ns := by
  cases ns with
  | one s => rfl
  | many ss =>
    have hs : tuple text (.list (ss.map .str)) = .ok ss := by
      simpa [tuple] using
        traverse_map (f := text) (g := .str) (h := id) (fun s (_ : s ∈ ss) => rfl) 0
    simp only [TypeNames.document, namesDecoder, hs]

theorem Decoder.scalar_of_isScalar {v : Value} (h : v.isScalar = true) : scalar v = .ok v := by
  cases v <;> first | rfl | nomatch h

variable {o : Origin}

theorem upperField_eq_ok {fs : List (String × Value)} {u : Option Float}
    (h : FieldIs fs ⟨"valueTo", "value_to"⟩ (fieldOf "valueTo" .float u).2) :
    upperField o (writtenFields fs) = .ok u :=
  h.optional_fieldOf (fun _ => rfl) fun _ => rfl

theorem optional_text_eq_ok {fs : List (String × Value)} {name : FieldName} {s : Option String}
    (h : FieldIs fs name (fieldOf name.preferred .str s).2) :
    optional (writtenFields fs) name (orNothing text) none = .ok s :=
  h.optional_fieldOf (fun _ => rfl) fun _ => rfl

theorem ElevationTest.decoder_record (t : ElevationTest) :
    decoder o (NullFields.dropped.record t.fields) = .ok t := by
  have hop : FieldIs t.fields "operator" (.str t.comparison.name) := by
    constructor <;> simp [fields, fieldOf]
  have hv : FieldIs t.fields "value" (.float t.value) := by
    constructor <;> simp [fields, fieldOf]
  have hu : FieldIs t.fields ⟨"valueTo", "value_to"⟩ (fieldOf "valueTo" .float t.upper).2 := by
    constructor <;> simp [fields, fieldOf]
  simp only [record_dropped, decoder, record, upperField_eq_ok hu,
    hop.required_eq_ok rfl (named_str (NumberComparison.named?_name _)),
    hv.required_eq_ok (d := float o) rfl rfl, map_ok, seq_ok]

theorem RelationTarget.decoder_record (t : RelationTarget) :
    decoder (NullFields.dropped.record t.fields) = .ok t := by
  have ht : FieldIs t.fields "type" (fieldOf "type" .str t.typeName).2 := by
    constructor <;> simp [fields, fieldOf]
  have hn : FieldIs t.fields "name" (fieldOf "name" .str t.name).2 := by
    constructor <;> simp [fields, fieldOf]
  simp only [record_dropped, decoder, record, optional_text_eq_ok ht, optional_text_eq_ok hn,
    map_ok, seq_ok]

namespace Condition

def written (c : Condition) : Fields := writtenFields (c.fields .dropped)

theorem isText_of_typed {t : TypeTest} (ht : (type t).hasTypedFields = true) :
    t.predefinedType = none ∨ ∃ s, t.predefinedType = some (.str s) := by
  rw [hasTypedFields] at ht
  cases hp : t.predefinedType with
  | none => exact .inl rfl
  | some v =>
    rw [hp] at ht
    cases v with
    | str s => exact .inr ⟨s, rfl⟩
    | _ => nomatch ht

theorem isJson_predefinedType {t : TypeTest} (ht : (type t).hasTypedFields = true) :
    (t.predefinedType.getD .null).IsJson := by
  rcases isText_of_typed ht with hp | ⟨s, hp⟩ <;> rw [hp]
  · exact .null
  · exact .str s

theorem document_type {t : TypeTest} (ht : (type t).hasTypedFields = true) :
    (type t).document .dropped = .map (type t).written := by
  have hj : ∀ f ∈ (type t).fields .dropped, f.2.IsJson := by
    rw [fields]
    simpa using ⟨.str _, t.names.isJson_document, .bool _, isJson_predefinedType ht⟩
  have hentries : ∀ f ∈ ((type t).fields .dropped).map fun f => (Key.str f.1, f.2), f.2.IsJson := by
    intro e he
    obtain ⟨f, hf, rfl⟩ := List.mem_map.mp he
    exact hj f hf
  rw [document, extraDocument_of_isJson hentries, List.filter_map]
  rfl

theorem ofFields_type {t : TypeTest} (ht : (type t).hasTypedFields = true) :
    TypeTest.ofFields (type t).written = .ok t := by
  have hn : FieldIs ((type t).fields .dropped) ⟨"entityType", "entity_type"⟩ t.names.document := by
    constructor <;> simp [fields]
  have hs : FieldIs ((type t).fields .dropped) ⟨"includeSubtypes", "include_subtypes"⟩
      (.bool t.subtypes) := by
    constructor <;> simp [fields]
  have hp : FieldIs ((type t).fields .dropped) ⟨"predefinedType", "predefined_type"⟩
      (t.predefinedType.getD .null) := by
    constructor <;> simp [fields]
  have hread : optional (writtenFields ((type t).fields .dropped))
      ⟨"predefinedType", "predefined_type"⟩ (fun v => (orNothing text v).map (Option.map .str)) none
      = .ok t.predefinedType := by
    rcases isText_of_typed ht with hw | ⟨s, hw⟩ <;> rw [hw] at hp ⊢
    · exact hp.optional_of_null rfl _ _
    · exact hp.optional_of_not_null rfl rfl
  simp only [TypeTest.ofFields, hread, written,
    hn.required_eq_ok t.names.document_not_null (TypeTest.namesDecoder_document _),
    hs.optional_of_not_null (d := bool) (a := t.subtypes) rfl rfl,
    map_ok, seq_ok]

theorem ofFields_property {t : PropertyTest} (ht : (property t).hasTypedFields = true) :
    PropertyTest.ofFields o (property t).written = .ok t := by
  have hset : FieldIs ((property t).fields .dropped) ⟨"propertySet", "property_set"⟩
      (.str t.set) := by
    constructor <;> simp [fields, fieldOf]
  have hn : FieldIs ((property t).fields .dropped) ⟨"propertyName", "property_name"⟩
      (.str t.name) := by
    constructor <;> simp [fields, fieldOf]
  have hop : FieldIs ((property t).fields .dropped) "operator" (.str t.comparison.name) := by
    constructor <;> simp [fields, fieldOf]
  have hv : FieldIs ((property t).fields .dropped) "value" t.value := by
    constructor <;> simp [fields, fieldOf]
  have hu : FieldIs ((property t).fields .dropped) ⟨"valueTo", "value_to"⟩
      (fieldOf "valueTo" .float t.upper).2 := by
    constructor <;> simp [fields, fieldOf]
  have hread : optional (writtenFields ((property t).fields .dropped)) "value" scalar .null
      = .ok t.value := by
    cases hnull : t.value.isNull with
    | true =>
      have hz : t.value = .null := by
        cases hw : t.value <;> simp_all [Value.isNull]
      rw [hz] at hv ⊢
      exact hv.optional_of_null rfl _ _
    | false => exact hv.optional_of_not_null hnull (scalar_of_isScalar ht)
  simp only [PropertyTest.ofFields, written, upperField_eq_ok hu,
    hset.optional_of_not_null (d := text) (a := t.set) rfl rfl,
    hn.required_eq_ok (d := text) rfl rfl,
    hop.required_eq_ok rfl (named_str (Comparison.named?_name _)), hread, map_ok, seq_ok]

theorem ofFields_spatial (t : SpatialTest) :
    SpatialTest.ofFields o (spatial t).written = .ok t := by
  have hl : FieldIs ((spatial t).fields .dropped) "level" (.str t.level.name) := by
    constructor <;> simp [fields, fieldOf]
  have hn : FieldIs ((spatial t).fields .dropped) "name" (fieldOf "name" .str t.name).2 := by
    constructor <;> simp [fields, fieldOf]
  have he : FieldIs ((spatial t).fields .dropped) "elevation"
      (fieldOf "elevation" (fun e => NullFields.dropped.record e.fields) t.elevation).2 := by
    constructor <;> simp [fields, fieldOf]
  simp only [SpatialTest.ofFields, written, optional_text_eq_ok hn,
    hl.required_eq_ok rfl (named_str (SpatialLevel.named?_name _)),
    he.optional_fieldOf (fun _ => rfl) (ElevationTest.decoder_record (o := o)), map_ok, seq_ok]

theorem ofFields_material (t : MaterialTest) :
    MaterialTest.ofFields o (material t).written = .ok t := by
  have hn : FieldIs ((material t).fields .dropped) "name" (fieldOf "name" .str t.name).2 := by
    constructor <;> simp [fields, fieldOf]
  have hmin : FieldIs ((material t).fields .dropped) ⟨"minThickness", "min_thickness"⟩
      (fieldOf "minThickness" .float t.minThickness).2 := by
    constructor <;> simp [fields, fieldOf]
  have hmax : FieldIs ((material t).fields .dropped) ⟨"maxThickness", "max_thickness"⟩
      (fieldOf "maxThickness" .float t.maxThickness).2 := by
    constructor <;> simp [fields, fieldOf]
  simp only [MaterialTest.ofFields, written, optional_text_eq_ok hn,
    hmin.optional_fieldOf (d := float o) (fun _ => rfl) fun _ => rfl,
    hmax.optional_fieldOf (d := float o) (fun _ => rfl) fun _ => rfl, map_ok, seq_ok]

theorem ofFields_classification (t : ClassificationTest) :
    ClassificationTest.ofFields (classification t).written = .ok t := by
  have hs : FieldIs ((classification t).fields .dropped) "system"
      (fieldOf "system" .str t.system).2 := by
    constructor <;> simp [fields, fieldOf]
  have hc : FieldIs ((classification t).fields .dropped) "code" (fieldOf "code" .str t.code).2 := by
    constructor <;> simp [fields, fieldOf]
  have hn : FieldIs ((classification t).fields .dropped) "name" (fieldOf "name" .str t.name).2 := by
    constructor <;> simp [fields, fieldOf]
  simp only [ClassificationTest.ofFields, written, optional_text_eq_ok hs, optional_text_eq_ok hc,
    optional_text_eq_ok hn, map_ok, seq_ok]

theorem ofFields_attributeText (t : AttributeTest) :
    AttributeTest.ofFields (attributeText t).written = .ok t := by
  have hs : FieldIs ((attributeText t).fields .dropped) "attribute" (.str t.subject.label) := by
    constructor <;> simp [fields]
  have hop : FieldIs ((attributeText t).fields .dropped) "operator" (.str t.comparison.name) := by
    constructor <;> simp [fields]
  have hv : FieldIs ((attributeText t).fields .dropped) "value" (.str t.value) := by
    constructor <;> simp [fields]
  simp only [AttributeTest.ofFields, written,
    hs.required_eq_ok rfl (named_str (TextAttribute.named?_label _)),
    hop.required_eq_ok rfl (named_str (TextComparison.named?_name _)),
    hv.required_eq_ok (d := text) rfl rfl, map_ok, seq_ok]

theorem ofFields_quantity (t : QuantityTest) :
    QuantityTest.ofFields o (quantity t).written = .ok t := by
  have hset : FieldIs ((quantity t).fields .dropped) ⟨"quantitySet", "quantity_set"⟩
      (fieldOf "quantitySet" .str t.set).2 := by
    constructor <;> simp [fields, fieldOf]
  have hn : FieldIs ((quantity t).fields .dropped) ⟨"quantityName", "quantity_name"⟩
      (.str t.name) := by
    constructor <;> simp [fields, fieldOf]
  have hop : FieldIs ((quantity t).fields .dropped) "operator" (.str t.comparison.name) := by
    constructor <;> simp [fields, fieldOf]
  have hv : FieldIs ((quantity t).fields .dropped) "value" (.float t.value) := by
    constructor <;> simp [fields, fieldOf]
  have hu : FieldIs ((quantity t).fields .dropped) ⟨"valueTo", "value_to"⟩
      (fieldOf "valueTo" .float t.upper).2 := by
    constructor <;> simp [fields, fieldOf]
  simp only [QuantityTest.ofFields, written, upperField_eq_ok hu, optional_text_eq_ok hset,
    hn.required_eq_ok (d := text) rfl rfl,
    hop.required_eq_ok rfl (named_str (NumberComparison.named?_name _)),
    hv.required_eq_ok (d := float o) rfl rfl, map_ok, seq_ok]

theorem ofFields_relation (t : RelationTest) :
    RelationTest.ofFields (relation t).written = .ok t := by
  have hr : FieldIs ((relation t).fields .dropped) "relation" (.str t.relation.name) := by
    constructor <;> simp [fields, fieldOf]
  have ht : FieldIs ((relation t).fields .dropped) "target"
      (fieldOf "target" (fun r => NullFields.dropped.record r.fields) t.target).2 := by
    constructor <;> simp [fields, fieldOf]
  simp only [RelationTest.ofFields, written,
    hr.required_eq_ok rfl (named_str (RelationKind.named?_name _)),
    ht.optional_fieldOf (fun _ => rfl) RelationTarget.decoder_record, map_ok, seq_ok]

def isKnown : Condition → Bool
  | unknown _ _ => false
  | _ => true

theorem documents_eq_map (n : NullFields) (cs : List Condition) :
    documents n cs = cs.map (document n) := by
  induction cs with
  | nil => rfl
  | cons c cs ih => simp only [documents, List.map_cons, ih]

theorem traverse_documents {f : Condition → Condition} {cs : List Condition}
    (h : ∀ c ∈ cs, read o (c.document .dropped) = .ok (f c)) (place : Nat) :
    Checked.traverse (read o) place (documents .dropped cs) = .ok (cs.map f) := by
  rw [documents_eq_map]
  exact traverse_map h place

theorem read_document_leaf {c : Condition} (hl : c.isLeaf = true) (hk : c.isKnown = true)
    (ht : c.hasTypedFields = true) : read o (c.document .dropped) = .ok c := by
  have hd : c.document .dropped = .map c.written := by
    cases c with
    | group k cs => nomatch hl
    | unknown kind fs => nomatch hk
    | type t => exact document_type ht
    | _ => simp only [document, record_dropped, written]
  rw [hd, read]
  cases c with
  | type t =>
    have htag : ConditionTag.ofFields (type t).written = .type := rfl
    simp only [htag, ofFields_type ht, map_ok, under_ok]
  | property t =>
    have htag : ConditionTag.ofFields (property t).written = .property := rfl
    simp only [htag, ofFields_property ht, map_ok, under_ok]
  | spatial t =>
    have htag : ConditionTag.ofFields (spatial t).written = .spatial := rfl
    simp only [htag, ofFields_spatial, map_ok, under_ok]
  | material t =>
    have htag : ConditionTag.ofFields (material t).written = .material := rfl
    simp only [htag, ofFields_material, map_ok, under_ok]
  | classification t =>
    have htag : ConditionTag.ofFields (classification t).written = .classification := rfl
    simp only [htag, ofFields_classification, map_ok, under_ok]
  | attributeText t =>
    have htag : ConditionTag.ofFields (attributeText t).written = .attributeText := rfl
    simp only [htag, ofFields_attributeText, map_ok, under_ok]
  | quantity t =>
    have htag : ConditionTag.ofFields (quantity t).written = .quantity := rfl
    simp only [htag, ofFields_quantity, map_ok, under_ok]
  | relation t =>
    have htag : ConditionTag.ofFields (relation t).written = .relation := rfl
    simp only [htag, ofFields_relation, map_ok, under_ok]
  | group k cs => nomatch hl
  | unknown kind fs => nomatch hk

/-- A group reads back with what its members read back as. -/
theorem read_document_group {f : Condition → Condition} {k : GroupKind} {cs : List Condition}
    (h : ∀ c ∈ cs, read o (c.document .dropped) = .ok (f c)) :
    read o ((group k cs).document .dropped) = .ok (group k (cs.map f)) := by
  have htag : ConditionTag.ofFields [(.str "type", .str k.name),
      (.str "conditions", .list (documents .dropped cs))] = .group k := by
    cases k <;> rfl
  have hm : readMembers o [(.str "type", .str k.name),
      (.str "conditions", .list (documents .dropped cs))] = .ok (cs.map f) := by
    have ht : (Key.str "type" == Key.str "conditions") = false := rfl
    have hc : (Key.str "conditions" == Key.str "conditions") = true := rfl
    simp only [readMembers, ht, hc, readList, readAll_eq_traverse, traverse_documents h, under_ok,
      Bool.false_eq_true, if_false, if_true]
  simp only [document, Value.record, List.map_cons, List.map_nil, read, htag, hm, map_ok, under_ok]

/-- A tree with leaves of known kinds reads back. -/
theorem read_document {c : Condition} (hk : ∀ l ∈ c.leaves, l.isKnown = true) (ht : c.Typed) :
    read o (c.document .dropped) = .ok c := by
  induction c using tree_induction with
  | leaf c hc =>
    exact read_document_leaf hc (hk c (by simp [leaves_of_isLeaf hc])) ((typed_of_isLeaf hc).mp ht)
  | group k cs ih =>
    have hg := read_document_group (k := k) fun c hc =>
      ih c hc (fun l hl => hk l (mem_leaves_group.mpr ⟨c, hc, hl⟩)) (typed_group.mp ht c hc)
    rwa [List.map_id'] at hg

end Condition

namespace Rule

def fields (r : Rule) : List (String × Value) := [
  ("id", .str r.id),
  ("name", .str r.name),
  fieldOf "description" .str r.description,
  ("conditions", .list (Condition.documents .dropped r.conditions)),
  ("mode", .str r.mode.name)]

theorem document_eq (r : Rule) : r.document = .map (writtenFields r.fields) := rfl

theorem decoder_document_eq (r : Rule) : decoder o r.document =
    (fun cs => { r with conditions := cs }) <$> (Checked.traverse (Condition.read o) 0
      (Condition.documents .dropped r.conditions)).under [.name "conditions"] := by
  have hid : FieldIs r.fields "id" (.str r.id) := by
    constructor <;> simp [fields, fieldOf]
  have hn : FieldIs r.fields "name" (.str r.name) := by
    constructor <;> simp [fields, fieldOf]
  have hd : FieldIs r.fields "description" (fieldOf "description" .str r.description).2 := by
    constructor <;> simp [fields, fieldOf]
  have hc : FieldIs r.fields "conditions"
      (.list (Condition.documents .dropped r.conditions)) := by
    constructor <;> simp [fields, fieldOf]
  have hm : FieldIs r.fields "mode" (.str r.mode.name) := by
    constructor <;> simp [fields, fieldOf]
  have hcs : optional (writtenFields r.fields) "conditions" (tuple (Condition.read o)) [] =
      (Checked.traverse (Condition.read o) 0
        (Condition.documents .dropped r.conditions)).under [.name "conditions"] := by
    rw [Decoder.optional, hc.find?_some rfl]
    rfl
  simp only [document_eq, decoder, record, optional_text_eq_ok hd, hcs,
    hid.required_eq_ok (d := text) rfl rfl, hn.required_eq_ok (d := text) rfl rfl,
    hm.optional_of_not_null rfl (named_str (RuleMode.named?_name _)), map_ok, seq_ok]
  cases (Checked.traverse (Condition.read o) 0
    (Condition.documents .dropped r.conditions)).under [.name "conditions"] <;> rfl

/-- A rule reads back with what its conditions read back as. -/
theorem decoder_document_map {f : Condition → Condition} {r : Rule} (h : ∀ c ∈ r.conditions,
    Condition.read o (c.document .dropped) = .ok (f c)) :
    decoder o r.document = .ok { r with conditions := r.conditions.map f } := by
  rw [decoder_document_eq, Condition.traverse_documents h 0]
  rfl

theorem decoder_document {r : Rule} (h : ∀ c ∈ r.conditions,
    Condition.read o (c.document .dropped) = .ok c) : decoder o r.document = .ok r := by
  have hr := decoder_document_map h
  rwa [List.map_id'] at hr

/-- A rule of which every leaf is of a known kind is what its document reads back as. -/
theorem read_document_eq_self {r : Rule} (hk : ∀ l ∈ r.body.leaves, l.isKnown = true)
    (ht : r.body.Typed) : read r.document = .ok r := by
  refine decoder_document fun c hc => Condition.read_document (fun l hl => ?_) ?_
  · exact hk l (Condition.mem_leaves_group.mpr ⟨c, hc, hl⟩)
  · exact Condition.typed_group.mp ht c hc

/-- Groups in groups, an empty group, several types, and fields that are given and that are not. -/
def nested : Rule where
  id := "outer"
  name := "Outer walls"
  description := none
  conditions := [
    .type ⟨.many ["IfcWall", "IfcSlab"], false, some (.str "SOLID*")⟩,
    .group .none [
      .spatial ⟨.storey, none, some ⟨.between, 0, some 3.5⟩⟩,
      .group .any [],
      .group .all [.property ⟨"*", "FireRating", .exists, .null, none⟩]],
    .relation ⟨.containedIn, some ⟨none, some "Level ?"⟩⟩]
  mode := .any

theorem read_document_eq_self_nested :
    (∀ l ∈ nested.body.leaves, l.isKnown = true) ∧ nested.body.Typed ∧
      read nested.document = .ok nested := by
  have hk : ∀ l ∈ nested.body.leaves, l.isKnown = true := by
    simp [nested, body, Condition.leaves, Condition.leavesOfAll, Condition.isKnown]
  have ht : nested.body.Typed := by
    simp [nested, body, Condition.Typed, Condition.leaves, Condition.leavesOfAll,
      Condition.hasTypedFields, Value.isScalar]
  exact ⟨hk, ht, read_document_eq_self hk ht⟩

end Rule

end BuildingQuery
