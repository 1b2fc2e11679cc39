import BuildingQuery.Proofs.Condition.Members
import BuildingQuery.Proofs.Condition.Payload

/-! Which conditions can be read back from their documents. Those that were read can be, whatever
data their extra fields hold; a test of types can be just if its predefined type is written as a
text or as nothing. -/

namespace BuildingQuery

open Checked Decoder

/-- In a document the value is a text or nothing. -/
def Value.isWrittenAsText (v : Value) : Bool :=
  match jsonForm v with
  | .str _ | .null => true
  | _ => false

namespace Condition

variable {o : Origin} {c : Condition}

/-- The leaves are as they are read. -/
structure Readable (c : Condition) : Prop where
  typed : c.Typed
  apart : ∀ l ∈ c.leaves, l.IsApart

theorem readable_of_isKnown (hl : c.isLeaf = true) (hk : c.isKnown = true)
    (ht : c.hasTypedFields = true) : c.Readable where
  typed := (typed_of_isLeaf hl).mpr ht
  apart := by
    rw [leaves_of_isLeaf hl]
    cases c with
    | unknown kind fields => nomatch hk
    | _ => simp [IsApart]

theorem readable_group {k : GroupKind} {cs : List Condition} :
    (group k cs).Readable ↔ ∀ c ∈ cs, c.Readable := by
  constructor
  · intro h c hc
    exact ⟨typed_group.mp h.typed c hc, fun l hl => h.apart l (mem_leaves_group.mpr ⟨c, hc, hl⟩)⟩
  · intro h
    refine ⟨typed_group.mpr fun c hc => (h c hc).typed, fun l hl => ?_⟩
    obtain ⟨c, hc, hl⟩ := mem_leaves_group.mp hl
    exact (h c hc).apart l hl

theorem readable_of_read {v : Value} (h : read o v = .ok c) : c.Readable where
  typed := typed_of_read v h
  apart := forall_leaves_of_read Value.inherited_true isApart_of_read v trivial h

theorem Readable.exists_read_document (h : c.Readable) :
    ∃ m, read o (c.document .dropped) = .ok m := by
  induction c using tree_induction with
  | leaf c hc =>
    cases c with
    | group k cs => nomatch hc
    | unknown kind fields => exact ⟨_, read_document_extras (h.apart _ (by simp [leaves]))⟩
    | _ => exact ⟨_, read_document_leaf hc rfl ((typed_of_isLeaf hc).mp h.typed)⟩
  | group k cs ih =>
    have hgroup : IsGroup ((group k cs).document .dropped) k (documents .dropped cs) := ⟨rfl, rfl⟩
    rw [hgroup.exists_read_iff, documents_eq_map]
    intro d hd
    obtain ⟨c, hc, rfl⟩ := List.mem_map.mp hd
    exact ih c hc (readable_group.mp h c hc)

/-- The fields of a test of types with anything in place of the predefined type. -/
def typesFields (names : TypeNames) (subtypes : Bool) (v : Value) : Fields := [
  (.str "type", .str "entityType"),
  (.str "entityType", names.document),
  (.str "includeSubtypes", .bool subtypes),
  (.str "predefinedType", v)]

theorem read_typesFields (names : TypeNames) (subtypes : Bool) (v : Value) :
    read o (.map (typesFields names subtypes v)) =
      ((fun p => type ⟨names, subtypes, p.map .str⟩) <$>
        (orNothing text v).under [.name "predefinedType"]).under [.name "entityType"] := by
  have htag : ConditionTag.ofFields (typesFields names subtypes v) = .type := rfl
  have hnames : required (typesFields names subtypes v) ⟨"entityType", "entity_type"⟩
      TypeTest.namesDecoder = .ok names :=
    required_eq_ok.mpr ⟨_, rfl, TypeTest.namesDecoder_document names⟩
  rw [read]
  simp only [htag, TypeTest.ofFields, hnames, map_ok]
  cases v <;> rfl

theorem document_type_of_some {t : TypeTest} {v : Value} (ht : t.predefinedType = some v)
    (hv : v.isNull = false) :
    (type t).document .dropped = .map (typesFields t.names t.subtypes (jsonForm v)) := by
  have hkept : ∀ f ∈ ((type t).fields .dropped).map fun f => (Key.str f.1, f.2),
      (!f.2.isNull) = true := by
    have htag : (Value.str "entityType").isNull = false := rfl
    have hsubtypes : (Value.bool t.subtypes).isNull = false := rfl
    simp [fields, ht, hv, t.names.document_not_null, htag, hsubtypes]
  rw [document, extraDocument, if_pos rfl, List.filter_eq_self.mpr hkept, fields, ht]
  simp only [List.map_cons, List.map_nil, Option.getD_some,
    jsonForm_of_isJson t.names.isJson_document]
  rfl

theorem exists_orNothing_text_iff {v : Value} :
    (∃ p, orNothing text (jsonForm v) = .ok p) ↔ v.isWrittenAsText = true := by
  rw [Value.isWrittenAsText]
  cases jsonForm v with
  | null => simp [orNothing]
  | str s => exact iff_of_true ⟨_, rfl⟩ rfl
  | _ =>
    refine iff_of_false ?_ Bool.false_ne_true
    rintro ⟨p, hp⟩
    cases hp

/-- A test of types is read back if its predefined type, if there is one, is written as a text or
as nothing. -/
theorem exists_read_type_iff {t : TypeTest} :
    (∃ m, read o ((type t).document .dropped) = .ok m) ↔
      ∀ v, t.predefinedType = some v → v.isWrittenAsText = true := by
  by_cases hw : ∃ v, t.predefinedType = some v ∧ v.isNull = false
  · obtain ⟨v, ht, hv⟩ := hw
    rw [document_type_of_some ht hv, read_typesFields]
    simp only [under_eq_ok, map_eq_ok, ht, Option.some.injEq, forall_eq',
      ← exists_orNothing_text_iff]
    constructor
    · rintro ⟨m, p, hp, -⟩
      exact ⟨p, hp⟩
    · rintro ⟨p, hp⟩
      exact ⟨_, p, hp, rfl⟩
  · -- A value that is null is not written, as if there were none.
    have hnull : ∀ v, t.predefinedType = some v → v = .null := by
      intro v ht
      cases v with
      | null => rfl
      | _ => exact absurd ⟨_, ht, rfl⟩ hw
    have hdocument : (type t).document .dropped =
        (type { t with predefinedType := none }).document .dropped := by
      rw [document, document, fields, fields]
      cases ht : t.predefinedType with
      | none => rfl
      | some v => rw [hnull v ht]; rfl
    rw [hdocument]
    refine iff_of_true ⟨_, read_document_leaf rfl rfl rfl⟩ fun v ht => ?_
    rw [hnull v ht]
    rfl

end Condition

namespace Rule

theorem exists_read_document_iff {r : Rule} : (∃ s, read r.document = .ok s) ↔
    ∀ c ∈ r.conditions, ∃ m, Condition.read .plain (c.document .dropped) = .ok m := by
  have hread : read r.document = decoder .plain r.document := rfl
  have htraverse : (∃ cs, Checked.traverse (Condition.read .plain) 0
      (Condition.documents .dropped r.conditions) = .ok cs) ↔
        ∀ c ∈ r.conditions, ∃ m, Condition.read .plain (c.document .dropped) = .ok m := by
    rw [exists_traverse_iff, Condition.documents_eq_map, List.forall_mem_map]
  rw [← htraverse, hread, decoder_document_eq]
  simp only [map_eq_ok, under_eq_ok]
  constructor
  · rintro ⟨s, cs, hcs, -⟩
    exact ⟨cs, hcs⟩
  · rintro ⟨cs, hcs⟩
    exact ⟨_, cs, hcs, rfl⟩

end Rule

end BuildingQuery
