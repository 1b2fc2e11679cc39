import BuildingQuery.Proofs.Condition.RoundTrip

/-! Conditions of unknown kinds through documents. They keep the fields they came with, whatever
JSON data these hold, except that a field without a value is not written. -/

namespace BuildingQuery

open Checked Decoder

namespace Condition

variable {o : Origin} {Q : Value → Prop}

/-- An unknown condition as it is read: no known kind has its name, and its fields have texts for
keys, none of which is that of the kind. -/
def IsApart : Condition → Prop
  | unknown kind fields =>
    ConditionTag.ofName kind = .unknown ∧ ∀ f ∈ fields, ∃ s, f.1 = .str s ∧ s ≠ "type"
  | _ => True

theorem extraFields_eq_ok {fs fields : Fields} :
    extraFields fs = .ok fields ↔
      (∀ f ∈ fs, ∃ s, f.1 = .str s) ∧ (fs.filter fun f => f.1 != .str "type") = fields := by
  rw [extraFields]
  simp only [List.isEmpty_iff, List.filterMap_eq_nil_iff]
  split
  case isTrue h =>
    rw [Checked.ok.injEq, eq_comm, iff_and_self]
    rintro - f hf
    have hkey := h f hf
    cases hk : f.1 <;> simp_all
  case isFalse h =>
    simp only [reduceCtorEq, false_iff]
    rintro ⟨hkeys, -⟩
    refine h fun f hf => ?_
    obtain ⟨s, hs⟩ := hkeys f hf
    rw [hs]

theorem get?_type_of_required {fs : Fields} {kind : String}
    (h : required fs "type" text = .ok kind) :
    OrderedMap.get? fs (.str "type") = some (.str kind) := by
  obtain ⟨⟨used, v⟩, hfind, hv⟩ := required_eq_ok.mp h
  have hv : v = .str kind := by
    cases v <;> simp_all [text, fail]
  cases hg : OrderedMap.get? fs (.str "type") with
  | none => simp [FieldName.find?, hg] at hfind
  | some w =>
    simp only [FieldName.find?, hg, Option.some.injEq, Prod.mk.injEq] at hfind
    rw [hfind.2, hv]

theorem isApart_of_read : HoldsOfRead o Q IsApart := by
  intro fs c _ hl h
  rw [read] at h
  simp only [under_eq_ok] at h
  cases ht : ConditionTag.ofFields fs <;> simp only [ht] at h
  case unknown =>
    obtain ⟨g, fields, hg, hf, rfl⟩ := seq_eq_ok.mp h
    obtain ⟨kind, hk, rfl⟩ := map_eq_ok.mp hg
    obtain ⟨hkeys, rfl⟩ := extraFields_eq_ok.mp hf
    refine ⟨?_, fun f hf => ?_⟩
    · simpa only [ConditionTag.ofFields, get?_type_of_required hk] using ht
    · obtain ⟨hf, hne⟩ := List.mem_filter.mp hf
      obtain ⟨s, hs⟩ := hkeys f hf
      refine ⟨s, hs, ?_⟩
      rintro rfl
      simp [hs, bne, Key.beq_str] at hne
  all_goals
    obtain ⟨t, -, rfl⟩ := map_eq_ok.mp h
    trivial

/-- The fields that a document has room for. -/
def keptFields (fields : Fields) : Fields := fields.filter fun f => !f.2.isNull

mutual

/-- The tree without the extra fields that have no value. -/
def pruned : Condition → Condition
  | group k cs => group k (prunedAll cs)
  | unknown kind fields => unknown kind (keptFields fields)
  | c => c

def prunedAll : List Condition → List Condition
  | [] => []
  | c :: cs => pruned c :: prunedAll cs

end

theorem prunedAll_eq_map (cs : List Condition) : prunedAll cs = cs.map pruned := by
  induction cs with
  | nil => rfl
  | cons c cs ih => rw [prunedAll, ih, List.map_cons]

theorem pruned_group (k : GroupKind) (cs : List Condition) :
    (group k cs).pruned = group k (cs.map pruned) := by
  rw [pruned, prunedAll_eq_map]

theorem pruned_of_isKnown {c : Condition} (hl : c.isLeaf = true) (hk : c.isKnown = true) :
    c.pruned = c := by
  cases c with
  | group k cs => nomatch hl
  | unknown kind fields => nomatch hk
  | _ => simp only [pruned]

def HasValues (c : Condition) : Prop :=
  ∀ kind fields, unknown kind fields ∈ c.leaves → ∀ f ∈ fields, f.2 ≠ .null

theorem hasValues_group {k : GroupKind} {cs : List Condition} :
    (group k cs).HasValues ↔ ∀ c ∈ cs, c.HasValues := by
  simp only [HasValues, mem_leaves_group]
  exact ⟨fun h c hc kind fields hl => h kind fields ⟨c, hc, hl⟩,
    fun h kind fields ⟨c, hc, hl⟩ => h c hc kind fields hl⟩

theorem keptFields_eq_self_iff {fields : Fields} :
    keptFields fields = fields ↔ ∀ f ∈ fields, f.2 ≠ .null := by
  rw [keptFields, List.filter_eq_self]
  refine forall₂_congr fun f _ => ?_
  cases f.2 <;> simp [Value.isNull]

/-- Nothing is left out of a tree just if every extra field has a value. -/
theorem pruned_eq_self_iff {c : Condition} : c.pruned = c ↔ c.HasValues := by
  induction c using tree_induction with
  | leaf c hc =>
    rw [HasValues, leaves_of_isLeaf hc]
    cases c with
    | group k cs => nomatch hc
    | unknown kind fields => simp [pruned, keptFields_eq_self_iff]
    | _ => simp [pruned]
  | group k cs ih =>
    rw [pruned_group, Condition.group.injEq, hasValues_group, eq_self, true_and]
    have hid : cs.map pruned = cs ↔ cs.map pruned = cs.map id := by rw [List.map_id]
    rw [hid, List.map_inj_left]
    exact forall₂_congr ih

theorem keys_extraDocument {n : NullFields} {fields : Fields}
    (h : ∀ f ∈ fields, ∃ s, f.1 = .str s ∧ s ≠ "type") :
    ∀ f ∈ extraDocument n fields, ∃ s, f.1 = .str s ∧ s ≠ "type" := by
  intro f hf
  obtain ⟨g, hg, rfl⟩ := List.mem_map.mp hf
  split at hg
  · exact h g (List.mem_filter.mp hg).1
  · exact h g hg

/-- Whatever data the extra fields hold, they are read as they are written. -/
theorem read_document_extras {kind : String} {fields : Fields}
    (ha : (unknown kind fields).IsApart) : read o ((unknown kind fields).document .dropped) =
      .ok (unknown kind (extraDocument .dropped fields)) := by
  obtain ⟨hkind, hkeys⟩ := ha
  have hkeys := keys_extraDocument (n := .dropped) hkeys
  rw [document, read]
  generalize extraDocument .dropped fields = extras at hkeys
  have hget : OrderedMap.get? ((Key.str "type", Value.str kind) :: extras) (.str "type") =
      some (.str kind) := rfl
  have htag : ConditionTag.ofFields ((.str "type", .str kind) :: extras) = .unknown := by
    simp only [ConditionTag.ofFields, hget, hkind]
  have htype : required ((.str "type", .str kind) :: extras) "type" text = .ok kind := rfl
  have hextra : extraFields ((.str "type", .str kind) :: extras) = .ok extras := by
    refine extraFields_eq_ok.mpr ⟨?_, ?_⟩
    · refine List.forall_mem_cons.mpr ⟨⟨_, rfl⟩, fun f hf => ?_⟩
      obtain ⟨s, hs, -⟩ := hkeys f hf
      exact ⟨s, hs⟩
    · rw [List.filter_cons_of_neg (by simp [bne, Key.beq_str]), List.filter_eq_self]
      intro f hf
      obtain ⟨s, hs, hne⟩ := hkeys f hf
      simpa [hs, bne, Key.beq_str] using hne
  simp only [htag, unknownOfFields, htype, hextra, map_ok, seq_ok, under_ok]

theorem read_document_unknown {kind : String} {fields : Fields}
    (ha : (unknown kind fields).IsApart) (hj : ∀ f ∈ fields, f.2.IsJson) :
    read o ((unknown kind fields).document .dropped) = .ok (unknown kind fields).pruned := by
  rw [read_document_extras ha, extraDocument_of_isJson hj, pruned, keptFields]

def HasJsonFields (c : Condition) : Prop :=
  ∀ kind fields, unknown kind fields ∈ c.leaves → ∀ f ∈ fields, f.2.IsJson

theorem hasJsonFields_group {k : GroupKind} {cs : List Condition} :
    (group k cs).HasJsonFields ↔ ∀ c ∈ cs, c.HasJsonFields := by
  simp only [HasJsonFields, mem_leaves_group]
  exact ⟨fun h c hc kind fields hl => h kind fields ⟨c, hc, hl⟩,
    fun h kind fields ⟨c, hc, hl⟩ => h c hc kind fields hl⟩

/-- A tree reads back as it is but for extra fields without a value. -/
theorem read_document_pruned {c : Condition} (ht : c.Typed) (ha : ∀ l ∈ c.leaves, l.IsApart)
    (hj : c.HasJsonFields) : read o (c.document .dropped) = .ok c.pruned := by
  induction c using tree_induction with
  | leaf c hc =>
    cases c with
    | group k cs => nomatch hc
    | unknown kind fields =>
      have hmem : unknown kind fields ∈ (unknown kind fields).leaves := by simp [leaves]
      exact read_document_unknown (ha _ hmem) (hj _ _ hmem)
    | _ =>
      rw [pruned_of_isKnown hc rfl]
      exact read_document_leaf hc rfl ((typed_of_isLeaf hc).mp ht)
  | group k cs ih =>
    rw [pruned_group]
    refine read_document_group fun c hc => ih c hc (typed_group.mp ht c hc) (fun l hl => ?_)
      (hasJsonFields_group.mp hj c hc)
    exact ha l (mem_leaves_group.mpr ⟨c, hc, hl⟩)

end Condition

namespace Rule

theorem isApart_of_read {v : Value} {r : Rule} (h : read v = .ok r) :
    ∀ l ∈ r.body.leaves, l.IsApart :=
  forall_leaves_of_read Value.inherited_true (fun _ => Condition.isApart_of_read)
    (fun _ _ _ => trivial) trivial h

def pruned (r : Rule) : Rule := { r with conditions := r.conditions.map Condition.pruned }

theorem pruned_eq_self_iff {r : Rule} : r.pruned = r ↔ r.body.HasValues := by
  rw [body, ← Condition.pruned_eq_self_iff, Condition.pruned_group, Condition.group.injEq, eq_self,
    true_and]
  obtain ⟨id, name, description, conditions, mode⟩ := r
  simp [pruned]

/-- A rule that was read from a document or from JSON text, whose unknown conditions hold JSON data
in their extra fields: its own document reads back as the rule without those of the fields that have
no value, and so as the rule itself just if every extra field has one. -/
theorem read_document_eq_pruned {d : Value} {r : Rule} (h : read d = .ok r)
    (hj : r.body.HasJsonFields) :
    read r.document = .ok r.pruned ∧ (read r.document = .ok r ↔ r.body.HasValues) := by
  have ht := typed_of_read h
  have ha := isApart_of_read h
  have hr : read r.document = .ok r.pruned := by
    refine decoder_document_map fun c hc => Condition.read_document_pruned
      (Condition.typed_group.mp ht c hc) (fun l hl => ?_)
      (Condition.hasJsonFields_group.mp hj c hc)
    exact ha l (Condition.mem_leaves_group.mpr ⟨c, hc, hl⟩)
  refine ⟨hr, ?_⟩
  rw [hr, Checked.ok.injEq, pruned_eq_self_iff]

/-- A condition of an unknown kind inside a group, with a field that has no value and one that
holds a part without a value. -/
def geometryDocument : Value := Value.record [
  ("id", .str "a"),
  ("name", .str "b"),
  ("conditions", .list [Value.record [
    ("type", .str "not"),
    ("conditions", .list [Value.record [
      ("type", .str "geometry"),
      ("minVolume", .float 2.5),
      ("note", .null),
      ("box", Value.record [("corner", .list [.int 0, .null])])]])]])]

def geometryRule (fields : Fields) : Rule where
  id := "a"
  name := "b"
  description := none
  conditions := [.group .none [.unknown "geometry" fields]]
  mode := .all

def geometryFields : Fields := [
  (.str "minVolume", .float 2.5),
  (.str "note", .null),
  (.str "box", Value.record [("corner", .list [.int 0, .null])])]

theorem read_document_eq_pruned_geometry :
    read geometryDocument = .ok (geometryRule geometryFields) ∧
      (geometryRule geometryFields).body.HasJsonFields ∧
      read (geometryRule geometryFields).document = .ok (geometryRule [
        (.str "minVolume", .float 2.5),
        (.str "box", Value.record [("corner", .list [.int 0, .null])])]) := by
  have hr : read geometryDocument = .ok (geometryRule geometryFields) := rfl
  have hbox : (Value.record [("corner", .list [.int 0, .null])]).IsJson := by
    refine .map (by simp) ?_
    simpa using Value.JsonData.list (by simpa using ⟨.int 0, .null⟩)
  have hj : (geometryRule geometryFields).body.HasJsonFields := by
    intro kind fields hl
    simp only [geometryRule, body, RuleMode.kind, Condition.leaves, Condition.leavesOfAll,
      List.append_nil, List.mem_singleton, Condition.unknown.injEq] at hl
    obtain ⟨-, rfl⟩ := hl
    simpa [geometryFields] using ⟨.float (by decide +kernel), .null, hbox⟩
  exact ⟨hr, hj, (read_document_eq_pruned hr hj).1⟩

/-- A field without a value is lost: what the document reads back as is another rule. -/
theorem document_loses_null_field :
    read geometryDocument = .ok (geometryRule geometryFields) ∧
      read (geometryRule geometryFields).document = .ok (geometryRule geometryFields).pruned ∧
      (geometryRule geometryFields).pruned.same (geometryRule geometryFields) = false :=
  ⟨rfl, rfl, rfl⟩

end Rule

end BuildingQuery
