import BuildingQuery.Condition.Document
import BuildingQuery.Proofs.Checked

/-! Reading fields out of a record that was written without its empty fields. A field that has a
value is found under its preferred spelling, and one that has none is found under no spelling. -/

namespace BuildingQuery

open Checked Decoder

theorem Key.beq_str (s t : String) : (Key.str s == Key.str t) = (s == t) := rfl

/-- The fields that are written of a record. -/
def writtenFields (fs : List (String × Value)) : Fields :=
  (fs.filter (!·.2.isNull)).map fun e => (.str e.1, e.2)

theorem record_dropped (fs : List (String × Value)) :
    NullFields.dropped.record fs = .map (writtenFields fs) := rfl

theorem get?_writtenFields (fs : List (String × Value)) (s : String) :
    OrderedMap.get? (writtenFields fs) (.str s) = (fs.filter (!·.2.isNull)).lookup s := by
  rw [writtenFields]
  induction fs.filter (!·.2.isNull) with
  | nil => rfl
  | cons p ps ih =>
    obtain ⟨t, v⟩ := p
    simp only [OrderedMap.get?, List.map_cons, List.lookup_cons, Key.beq_str] at ih ⊢
    rw [ih]

/-- The field of a record that any of the spellings names. -/
structure FieldIs (fs : List (String × Value)) (name : FieldName) (v : Value) : Prop where
  mem : (name.preferred, v) ∈ fs
  eq : ∀ p ∈ fs, p.1 = name.preferred ∨ p.1 = name.other → p.2 = v

variable {α : Type} {fs : List (String × Value)} {name : FieldName} {v : Value}

theorem lookup_eq_some {ps : List (String × Value)} {s : String} (hm : (s, v) ∈ ps)
    (hv : ∀ p ∈ ps, p.1 = s → p.2 = v) : ps.lookup s = some v := by
  induction ps with
  | nil => nomatch hm
  | cons p ps ih =>
    obtain ⟨t, w⟩ := p
    by_cases ht : s = t
    · subst ht
      have hw : w = v := hv (s, w) List.mem_cons_self rfl
      simp [hw]
    · have hps : (s, v) ∈ ps := by simpa [ht] using hm
      have hb : (s == t) = false := by simpa using ht
      rw [List.lookup_cons, hb]
      exact ih hps fun p hp => hv p (List.mem_cons_of_mem _ hp)

theorem FieldIs.find?_some (h : FieldIs fs name v) (hv : v.isNull = false) :
    name.find? (writtenFields fs) = some (name.preferred, v) := by
  have hs : (fs.filter (!·.2.isNull)).lookup name.preferred = some v := by
    refine lookup_eq_some (List.mem_filter.mpr ⟨h.mem, by simp [hv]⟩) fun p hp hn => ?_
    exact h.eq p (List.mem_filter.mp hp).1 (.inl hn)
  rw [FieldName.find?, get?_writtenFields, hs]

theorem FieldIs.find?_none (h : FieldIs fs name v) (hv : v.isNull = true) :
    name.find? (writtenFields fs) = none := by
  have hs {s : String} (hn : s = name.preferred ∨ s = name.other) :
      (fs.filter (!·.2.isNull)).lookup s = none := by
    rw [List.lookup_eq_none_iff]
    intro p hp
    obtain ⟨hp, hw⟩ := List.mem_filter.mp hp
    by_cases hs : s = p.1
    · have hpv := h.eq p hp (hs ▸ hn)
      simp [hpv, hv] at hw
    · simpa using hs
  rw [FieldName.find?, get?_writtenFields, get?_writtenFields, hs (.inl rfl), hs (.inr rfl)]
  rfl

theorem FieldIs.required_eq_ok (h : FieldIs fs name v) (hv : v.isNull = false) {d : Decoder α}
    {a : α} (hd : d v = .ok a) : required (writtenFields fs) name d = .ok a :=
  Decoder.required_eq_ok.mpr ⟨_, h.find?_some hv, hd⟩

theorem FieldIs.optional_of_null (h : FieldIs fs name v) (hv : v.isNull = true) (d : Decoder α)
    (default : α) : optional (writtenFields fs) name d default = .ok default :=
  Decoder.optional_eq_ok.mpr (.inl ⟨h.find?_none hv, rfl⟩)

theorem FieldIs.optional_of_not_null (h : FieldIs fs name v) (hv : v.isNull = false)
    {d : Decoder α} {default a : α} (hd : d v = .ok a) :
    optional (writtenFields fs) name d default = .ok a :=
  Decoder.optional_eq_ok.mpr (.inr ⟨_, h.find?_some hv, hd⟩)

theorem FieldIs.optional_fieldOf {f : α → Value} {a : Option α} {s : String}
    (h : FieldIs fs name (fieldOf s f a).2) (hf : ∀ x, (f x).isNull = false) {d : Decoder α}
    (hd : ∀ x, d (f x) = .ok x) : optional (writtenFields fs) name (orNothing d) none = .ok a := by
  cases a with
  | none => exact h.optional_of_null rfl _ _
  | some x =>
    refine h.optional_of_not_null (hf x) ?_
    have hx : (fieldOf s f (some x)).2 = f x := rfl
    rw [hx, orNothing_of_not_null (hf x), hd]
    rfl

end BuildingQuery
