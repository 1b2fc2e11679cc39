import BuildingQuery.Proofs.Condition.RoundTrip
import BuildingQuery.Proofs.Index.Records

/-! The record of an element keeps to its own format: what it shows of itself, field by field, is
read back as the same record. -/

namespace BuildingQuery

open Checked Decoder

namespace Facet

theorem toValues_eq_map (fs : List Facet) : toValues fs = fs.map toValue := by
  induction fs with
  | nil => rfl
  | cons f fs ih => rw [toValues, ih, List.map_cons]

theorem get?_fieldValues {fs : List (String × Facet)} {s : String} {f : Facet}
    (h : fs.lookup s = some f) : OrderedMap.get? (fieldValues fs) (.str s) = some f.toValue := by
  induction fs with
  | nil => nomatch h
  | cons p fs ih =>
    rw [List.lookup_cons] at h
    rw [fieldValues, OrderedMap.get?_cons, Key.beq_str]
    cases hs : s == p.1 with
    | true =>
      rw [hs] at h
      rw [if_pos rfl, Option.some.inj h]
    | false =>
      rw [hs] at h
      exact ih h

end Facet

section Parts

variable {α : Type} {d : Decoder α} {f : α → Facet} {fs : List (String × Facet)} {s : String} {a : α}
  {shown : Facet}

theorem required_fieldValues (h : fs.lookup s = some shown) (hd : d shown.toValue = .ok a) :
    required (Facet.fieldValues fs) s d = .ok a :=
  required_coe_eq_ok.mpr ⟨_, Facet.get?_fieldValues h, hd⟩

theorem optional_fieldValues (default : α) (h : fs.lookup s = some shown)
    (hd : d shown.toValue = .ok a) : optional (Facet.fieldValues fs) s d default = .ok a :=
  optional_coe_eq_ok.mpr (.inl ⟨_, Facet.get?_fieldValues h, hd⟩)

theorem orNothing_ofOption (hd : ∀ a, d (f a).toValue = .ok a)
    (hnull : ∀ a, (f a).toValue.isNull = false) (o : Option α) :
    orNothing d (Facet.ofOption f o).toValue = .ok o := by
  cases o with
  | none => rfl
  | some a =>
    rw [Facet.ofOption, orNothing_of_not_null (hnull a), hd]
    rfl

theorem orNothing_text (o : Option String) :
    orNothing text (Facet.ofOption .text o).toValue = .ok o :=
  orNothing_ofOption (fun _ => rfl) (fun _ => rfl) o

theorem orNothing_integer (o : Option Int) :
    orNothing integer (Facet.ofOption .int o).toValue = .ok o :=
  orNothing_ofOption (fun _ => rfl) (fun _ => rfl) o

theorem orNothing_float (o : Option Float) :
    orNothing (float .plain) (Facet.ofOption .float o).toValue = .ok o :=
  orNothing_ofOption (fun _ => rfl) (fun _ => rfl) o

theorem tuple_map (hd : ∀ a, d (f a).toValue = .ok a) (as : List α) :
    tuple d (Facet.tuple (as.map f)).toValue = .ok as := by
  have h : traverse d 0 (as.map fun a => (f a).toValue) = ok (as.map fun a => a) :=
    traverse_map (fun a _ => hd a) 0
  rw [List.map_id_fun'] at h
  rwa [Facet.toValue, Facet.toValues_eq_map, List.map_map]

theorem tuple_texts (ss : List String) : tuple text (Facet.texts ss).toValue = .ok ss :=
  tuple_map (f := Facet.text) (fun _ => rfl) ss

theorem tuple_ints (ns : List Int) : tuple integer (Facet.ints ns).toValue = .ok ns :=
  tuple_map (f := Facet.int) (fun _ => rfl) ns

theorem entries_tableValues {m : List (String × α)} (hd : ∀ p ∈ m, d (f p.2).toValue = .ok p.2) :
    entries text d (Facet.tableValues (m.map fun e => (.str e.1, f e.2))) = .ok m := by
  induction m with
  | nil => rfl
  | cons p m ih =>
    obtain ⟨hp, hm⟩ := List.forall_mem_cons.mp hd
    obtain ⟨s, a⟩ := p
    rw [List.map_cons, Facet.tableValues, entries, ih hm, hp]
    rfl

theorem map_ofTexts {m : OrderedMap String α} (hn : m.keys.Nodup)
    (hd : ∀ p ∈ m, d (f p.2).toValue = .ok p.2) :
    Decoder.map text d (Facet.ofTexts f m).toValue = .ok m := by
  have hm : OrderedMap.ofList m = m := by
    refine OrderedMap.ofList_of_pairwise ((List.pairwise_map.mp hn).imp fun {p q} hne => ?_)
    simpa using Ne.symm hne
  rw [Facet.ofTexts, Facet.toValue, Decoder.map, entries_tableValues hd]
  exact congrArg ok hm

theorem map_map_ofTexts {sets : OrderedMap String (OrderedMap String α)} (h : SetsOnce sets)
    (hd : ∀ s ∈ sets, ∀ p ∈ s.2, d (f p.2).toValue = .ok p.2) :
    Decoder.map text (Decoder.map text d) (Facet.ofTexts (Facet.ofTexts f) sets).toValue =
      .ok sets :=
  map_ofTexts h.keys fun s hs => map_ofTexts (h.names s hs) (hd s hs)

end Parts

theorem PropertyKind.named?_name (k : PropertyKind) : named? k.name = some k := by
  cases k <;> rfl

theorem MaterialKind.named?_name (k : MaterialKind) : named? k.name = some k := by
  cases k <;> rfl

theorem PropertyValue.decoder_facet {p : PropertyValue} (h : p.value.isScalar = true) :
    decoder p.facet.toValue = .ok p := by
  cases p
  refine seq_of_ok ?_ (optional_fieldValues _ rfl (orNothing_text _))
  refine seq_of_ok ?_ (optional_fieldValues _ rfl (scalar_of_isScalar h))
  exact map_of_ok (required_fieldValues rfl (named_str (PropertyKind.named?_name _)))

theorem MaterialLayer.decoder_facet (l : MaterialLayer) : decoder l.facet.toValue = .ok l := by
  cases l
  exact seq_of_ok (map_of_ok (optional_fieldValues _ rfl rfl)) (optional_fieldValues _ rfl rfl)

theorem ElementMaterial.decoder_facet (m : ElementMaterial) : decoder m.facet.toValue = .ok m := by
  cases m
  refine seq_of_ok ?_ (optional_fieldValues _ rfl (orNothing_float _))
  refine seq_of_ok ?_ (optional_fieldValues _ rfl (tuple_map MaterialLayer.decoder_facet _))
  refine seq_of_ok ?_ (optional_fieldValues _ rfl (named_str (MaterialKind.named?_name _)))
  exact map_of_ok (required_fieldValues rfl rfl)

theorem Classification.decoder_facet (c : Classification) : decoder c.facet.toValue = .ok c := by
  cases c
  refine seq_of_ok ?_ (optional_fieldValues _ rfl (tuple_texts _))
  refine seq_of_ok ?_ (optional_fieldValues _ rfl rfl)
  refine seq_of_ok ?_ (required_fieldValues rfl rfl)
  exact map_of_ok (required_fieldValues rfl rfl)

theorem Location.decoder_facet (l : Location) : decoder l.facet.toValue = .ok l := by
  cases l
  refine seq_of_ok ?_ (optional_fieldValues _ rfl (orNothing_float _))
  refine seq_of_ok ?_ (optional_fieldValues _ rfl (orNothing_text _))
  refine seq_of_ok ?_ (optional_fieldValues _ rfl (orNothing_text _))
  refine seq_of_ok ?_ (optional_fieldValues _ rfl (orNothing_text _))
  refine seq_of_ok ?_ (optional_fieldValues _ rfl (orNothing_text _))
  exact map_of_ok (optional_fieldValues _ rfl (orNothing_text _))

theorem Relations.decoder_facet (r : Relations) : decoder r.facet.toValue = .ok r := by
  cases r
  refine seq_of_ok ?_ (optional_fieldValues _ rfl (orNothing_integer _))
  refine seq_of_ok ?_ (optional_fieldValues _ rfl (orNothing_integer _))
  refine seq_of_ok ?_ (optional_fieldValues _ rfl (tuple_ints _))
  refine seq_of_ok ?_ (optional_fieldValues _ rfl (tuple_ints _))
  refine seq_of_ok ?_ (optional_fieldValues _ rfl (orNothing_integer _))
  exact map_of_ok (optional_fieldValues _ rfl (orNothing_integer _))

/-- A well-formed record, written out with all its fields, is read back as it was. -/
theorem Element.decoder_facet {e : Element} (h : e.WellFormed) : decoder e.facet.toValue = .ok e := by
  have hproperties := map_map_ofTexts (f := PropertyValue.facet) h.properties fun s hs p hp =>
    PropertyValue.decoder_facet (h.scalar s hs p hp)
  have hquantities := map_map_ofTexts (d := float .plain) (f := Facet.float) h.quantities
    fun _ _ _ _ => rfl
  have hmaterial := orNothing_ofOption ElementMaterial.decoder_facet (fun _ => rfl) e.material
  cases e
  refine seq_of_ok ?_ (optional_fieldValues _ rfl (Relations.decoder_facet _))
  refine seq_of_ok ?_ (optional_fieldValues _ rfl (tuple_map Classification.decoder_facet _))
  refine seq_of_ok ?_ (optional_fieldValues _ rfl hmaterial)
  refine seq_of_ok ?_ (optional_fieldValues _ rfl hquantities)
  refine seq_of_ok ?_ (optional_fieldValues _ rfl hproperties)
  refine seq_of_ok ?_ (optional_fieldValues _ rfl (Location.decoder_facet _))
  refine seq_of_ok ?_ (optional_fieldValues _ rfl (orNothing_text _))
  refine seq_of_ok ?_ (optional_fieldValues _ rfl (orNothing_text _))
  refine seq_of_ok ?_ (optional_fieldValues _ rfl (orNothing_text _))
  refine seq_of_ok ?_ (optional_fieldValues _ rfl (orNothing_text _))
  refine seq_of_ok ?_ (optional_fieldValues _ rfl (orNothing_text _))
  refine seq_of_ok ?_ (optional_fieldValues _ rfl (tuple_texts _))
  refine seq_of_ok ?_ (required_fieldValues rfl rfl)
  refine seq_of_ok ?_ (optional_fieldValues _ rfl rfl)
  exact map_of_ok (required_fieldValues rfl rfl)

end BuildingQuery
