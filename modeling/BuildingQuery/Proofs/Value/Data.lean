import BuildingQuery.Proofs.Fields
import BuildingQuery.Proofs.OrderedMap

/-! Data as JSON has it: every key of a map is a text that comes once. -/

namespace BuildingQuery

namespace Value

/-- JSON data whose floats have a property. -/
inductive JsonData (P : Float → Prop) : Value → Prop where
  | null : JsonData P .null
  | bool (b : Bool) : JsonData P (.bool b)
  | int (n : Int) : JsonData P (.int n)
  | float {x : Float} (h : P x) : JsonData P (.float x)
  | str (s : String) : JsonData P (.str s)
  | list {vs : List Value} (h : ∀ v ∈ vs, JsonData P v) : JsonData P (.list vs)
  | map {es : List (String × Value)} (hn : (es.map (·.1)).Nodup) (h : ∀ e ∈ es, JsonData P e.2) :
      JsonData P (record es)

/-- Data that JSON can write: its numbers are finite. -/
abbrev IsJson : Value → Prop := JsonData fun x => x.isFinite = true

/-- Data that JSON text can be written for: the numbers that JSON has no notation for are words. -/
abbrev IsData : Value → Prop := JsonData fun _ => True

variable {P Q : Float → Prop} {v : Value}

end Value

/-- Entries with text keys that come once are a map as they are. -/
theorem OrderedMap.ofList_record {es : List (String × Value)} (hn : (es.map (·.1)).Nodup) :
    Value.map (OrderedMap.ofList (es.map fun e => (Key.str e.1, e.2))) = Value.record es := by
  refine congrArg Value.map (OrderedMap.ofList_of_pairwise ?_)
  rw [List.pairwise_map]
  refine (List.pairwise_map.mp hn).imp fun {e f} hne => ?_
  have hs : ¬ f.1 = e.1 := fun h => hne h.symm
  simpa [Key.beq_str] using hs

theorem exists_record {fs : List (Key × Value)} (h : ∀ f ∈ fs, ∃ s, f.1 = .str s) :
    ∃ es : List (String × Value), fs = es.map fun e => (Key.str e.1, e.2) := by
  induction fs with
  | nil => exact ⟨[], rfl⟩
  | cons f fs ih =>
    obtain ⟨⟨s, hs⟩, hfs⟩ := List.forall_mem_cons.mp h
    obtain ⟨es, rfl⟩ := ih hfs
    exact ⟨(s, f.2) :: es, by rw [List.map_cons, ← hs]⟩

theorem jsonForms_eq_map (vs : List Value) : jsonForms vs = vs.map jsonForm := by
  induction vs with
  | nil => rfl
  | cons v vs ih => rw [jsonForms, ih, List.map_cons]

theorem jsonEntries_record (es : List (String × Value)) :
    jsonEntries (es.map fun e => (Key.str e.1, e.2)) =
      es.map fun e => (Key.str e.1, jsonForm e.2) := by
  induction es with
  | nil => rfl
  | cons e es ih => rw [List.map_cons, jsonEntries, ih, List.map_cons]

theorem jsonForm_of_isJson {v : Value} (h : v.IsJson) : jsonForm v = v := by
  induction h with
  | null => rfl
  | bool b => rfl
  | int n => rfl
  | float hx => rw [jsonForm, if_pos hx]
  | str s => rfl
  | @list vs _ ih =>
    have hvs : vs.map jsonForm = vs := (List.map_congr_left ih).trans (List.map_id vs)
    rw [jsonForm, jsonForms_eq_map, hvs]
  | @map es hn _ ih =>
    have hes : (es.map fun e => (Key.str e.1, jsonForm e.2)) = es.map fun e => (Key.str e.1, e.2) :=
      List.map_congr_left fun e he => by rw [ih e he]
    rw [Value.record, jsonForm, jsonEntries_record, hes]
    exact OrderedMap.ofList_record hn

theorem extraDocument_of_isJson {fields : List (Key × Value)} (h : ∀ f ∈ fields, f.2.IsJson) :
    extraDocument .dropped fields = fields.filter (!·.2.isNull) := by
  refine (List.map_congr_left fun f hf => ?_).trans (List.map_id _)
  rw [jsonForm_of_isJson (h f (List.mem_filter.mp hf).1)]
  rfl

theorem TypeNames.isJson_document (ns : TypeNames) : ns.document.IsJson := by
  cases ns with
  | one s => exact .str s
  | many ss =>
    refine .list fun v hv => ?_
    obtain ⟨s, -, rfl⟩ := List.mem_map.mp hv
    exact .str s

end BuildingQuery
