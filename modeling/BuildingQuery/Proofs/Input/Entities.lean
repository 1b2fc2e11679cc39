import BuildingQuery.Index.Build
import BuildingQuery.Proofs.Fields
import BuildingQuery.Proofs.Input.Integers
import Mathlib.Tactic.MkIffOfInductiveProp

/-! The plain data that stand for entities: maps with a type, perhaps an id, and perhaps attributes as
a list or as a map with text keys. -/

namespace BuildingQuery

open Checked Decoder

/-- A field of a map; of several values the last counts. -/
def FieldGiven (fs : Fields) (name : String) (v : Value) : Prop :=
  LastAt (fun f => f.1 ≠ .str name) (fun f => f = (.str name, v)) fs

def FieldAbsent (fs : Fields) (name : String) : Prop := ∀ f ∈ fs, f.1 ≠ .str name

def Key.value : Key → Value
  | .int n => .int n
  | .float x => .float x
  | .str s => .str s

/-- Attributes as a list, or as a map with text keys. -/
inductive Attributes.Listed : Value → Attributes → Prop where
  | positional (vs : List Value) : Listed (.list vs) (.positional vs)
  | byName (ps : List (String × Value)) :
      Listed (.map (ps.map fun p => (.str p.1, p.2))) (.byName (OrderedMap.ofList ps))

/-- The entity that a map gives under a key. The key stands for the id if the map gives none. -/
@[mk_iff]
structure Entity.GivenBy (e : Entity) (k : Key) (fs : Fields) : Prop where
  id : (∃ v, FieldGiven fs "express_id" v ∧ v.Denotes e.id) ∨
    FieldAbsent fs "express_id" ∧ k.value.Denotes e.id
  typeName : FieldGiven fs "type" (.str e.typeName)
  attributes : (∃ v, FieldGiven fs "attributes" v ∧ Attributes.Listed v e.attributes) ∨
    FieldAbsent fs "attributes" ∧ e.attributes = .positional []

/-- An entry of a map of entities: the integer of its key, and the entity. -/
structure EntityEntry (entry : Key × Value) (n : Int) (e : Entity) : Prop where
  key : entry.1.value.Denotes n
  entity : ∃ fs, entry.2 = .map fs ∧ e.GivenBy entry.1 fs

/-- No number is the same key as a text. -/
theorem Key.isDistinct_str (s : String) : OrderedMap.IsDistinct (Key.str s) where
  beq_iff k := by
    cases k with
    | str t => rw [beq_str, beq_iff_eq, Key.str.injEq, eq_comm]
    | int _ | float _ => exact iff_of_false Bool.false_ne_true nofun
  eq_iff_of_beq k l h := by
    cases k with
    | str t =>
      cases l with
      | str u =>
        rw [beq_str, beq_iff_eq] at h
        rw [h]
      | int _ | float _ => exact absurd h Bool.false_ne_true
    | int _ | float _ =>
      cases l with
      | str t => exact absurd h Bool.false_ne_true
      | int _ | float _ => exact iff_of_false nofun nofun

theorem get?_putAll_str {m : OrderedMap Key Value} {fs : Fields} {s : String} {v : Value} :
    (m.putAll fs).get? (.str s) = some v ↔
      FieldGiven fs s v ∨ FieldAbsent fs s ∧ m.get? (.str s) = some v :=
  (Key.isDistinct_str s).get?_putAll_eq_some_iff m fs v

theorem get?_putAll_str_eq_none {m : OrderedMap Key Value} {fs : Fields} {s : String} :
    (m.putAll fs).get? (.str s) = none ↔ FieldAbsent fs s ∧ m.get? (.str s) = none :=
  (Key.isDistinct_str s).get?_putAll_eq_none_iff m fs

section Reading

variable {α β : Type} [BEq β] {fs : Fields} {name : String} {v : Value}

theorem entries_eq_ok_iff {key : Decoder β} {d : Decoder α} {es : List (Key × Value)}
    {ps : List (β × α)} : entries key d es = .ok ps ↔
      List.Forall₂ (fun e p => key e.1.value = .ok p.1 ∧ d e.2 = .ok p.2) es ps := by
  induction es generalizing ps with
  | nil =>
    rw [List.forall₂_nil_left_iff, entries, ok.injEq]
    exact eq_comm
  | cons e es ih =>
    obtain ⟨k, v⟩ := e
    have hentry : entries key d ((k, v) :: es) = List.cons <$>
        (Prod.mk <$> (key k.value).under [k.step, .name "[key]"] <*> (d v).under [k.step]) <*>
          entries key d es := by
      cases k <;> rfl
    rw [List.forall₂_cons_left_iff, hentry]
    constructor
    · intro h
      obtain ⟨_, qs, hp, hqs, rfl⟩ := seq_eq_ok.mp h
      obtain ⟨p, hpair, rfl⟩ := map_eq_ok.mp hp
      obtain ⟨_, a, hk, ha, rfl⟩ := seq_eq_ok.mp hpair
      obtain ⟨b, hb, rfl⟩ := map_eq_ok.mp hk
      exact ⟨(b, a), qs, ⟨under_eq_ok.mp hb, under_eq_ok.mp ha⟩, ih.mp hqs, rfl⟩
    · rintro ⟨⟨b, a⟩, qs, ⟨hb, ha⟩, hqs, rfl⟩
      refine seq_of_ok (map_of_ok ?_) (ih.mpr hqs)
      exact seq_of_ok (map_of_ok (under_eq_ok.mpr hb)) (under_eq_ok.mpr ha)

theorem entries_text_eq_ok_iff {es : List (Key × Value)} {ps : List (String × Value)} :
    entries text .ok es = .ok ps ↔ es = ps.map fun p => (.str p.1, p.2) := by
  have htext : ∀ (e : Key × Value) (p : String × Value),
      text e.1.value = .ok p.1 ∧ Checked.ok e.2 = .ok p.2 ↔ e = (.str p.1, p.2) := by
    rintro ⟨k, v⟩ ⟨s, w⟩
    cases k <;> simp [Key.value, text, fail]
  simp only [entries_eq_ok_iff, htext]
  rw [← List.forall₂_eq_eq_eq, List.forall₂_map_right_iff]

theorem Attributes.decoder_map (es : List (Key × Value)) : Attributes.decoder (.map es) =
    match entries text .ok es with
    | .ok ps => .ok (.byName (OrderedMap.ofList ps))
    | .wrong is =>
      .wrong (⟨[.name "list[any]"], .notList⟩ ::
        is.map fun i => { i with path := .name "dict[str,any]" :: i.path }) := by
  simp only [Attributes.decoder, Decoder.map]
  cases entries text .ok es <;> rfl

theorem Attributes.decoder_eq_ok_iff {a : Attributes} :
    Attributes.decoder v = .ok a ↔ Attributes.Listed v a := by
  cases v with
  | list vs =>
    constructor
    · intro h
      obtain rfl := ok.inj h
      exact .positional vs
    · rintro ⟨⟩
      rfl
  | map es =>
    rw [decoder_map]
    constructor
    · intro h
      split at h
      case h_1 ps hps =>
        obtain rfl := ok.inj h
        obtain rfl := entries_text_eq_ok_iff.mp hps
        exact .byName ps
      case h_2 => nomatch h
    · rintro (_ | ps)
      rw [entries_text_eq_ok_iff.mpr rfl]
  | _ => exact iff_of_false (by rintro ⟨⟩) (by rintro ⟨⟩)

theorem text_eq_ok_iff {s : String} : text v = .ok s ↔ v = .str s := by
  cases v <;> simp [text, fail]

theorem Entity.decoder_map_iff {e : Entity} : Entity.decoder (.map fs) = .ok e ↔
    (∃ v, OrderedMap.get? fs (.str "express_id") = some v ∧ v.Denotes e.id) ∧
      OrderedMap.get? fs (.str "type") = some (.str e.typeName) ∧
      ((∃ v, OrderedMap.get? fs (.str "attributes") = some v ∧ Attributes.Listed v e.attributes) ∨
        OrderedMap.get? fs (.str "attributes") = none ∧ e.attributes = .positional []) := by
  simp only [← integer_eq_ok_iff, ← Attributes.decoder_eq_ok_iff]
  constructor
  · intro h
    obtain ⟨_, a, h₁, ha, rfl⟩ := seq_eq_ok.mp h
    obtain ⟨_, t, h₂, ht, rfl⟩ := seq_eq_ok.mp h₁
    obtain ⟨id, hid, rfl⟩ := map_eq_ok.mp h₂
    obtain ⟨v, htype, hv⟩ := required_coe_eq_ok.mp ht
    obtain rfl := text_eq_ok_iff.mp hv
    refine ⟨required_coe_eq_ok.mp hid, htype, (optional_coe_eq_ok.mp ha).imp_right ?_⟩
    exact And.imp_right Eq.symm
  · rintro ⟨hid, ht, ha⟩
    cases e
    refine seq_of_ok ?_ (optional_coe_eq_ok.mpr (ha.imp_right (And.imp_right Eq.symm)))
    refine seq_of_ok ?_ (required_coe_eq_ok.mpr ⟨_, ht, rfl⟩)
    exact map_of_ok (required_coe_eq_ok.mpr hid)

theorem Entity.decoder_withKey_iff {k : Key} {e : Entity} :
    Entity.decoder (withKey k v) = .ok e ↔ ∃ fs, v = .map fs ∧ e.GivenBy k fs := by
  cases v with
  | map fs =>
    have hkey : withKey k (.map fs) =
        .map (OrderedMap.putAll [(.str "express_id", k.value)] fs) := by
      cases k <;> rfl
    have hid : OrderedMap.get? [(Key.str "express_id", k.value)] (.str "express_id") =
        some k.value := rfl
    have htype : OrderedMap.get? [(Key.str "express_id", k.value)] (.str "type") = none := rfl
    have hattributes : OrderedMap.get? [(Key.str "express_id", k.value)] (.str "attributes") =
        none := rfl
    rw [hkey, decoder_map_iff]
    simp only [get?_putAll_str, get?_putAll_str_eq_none, hid, htype, hattributes, reduceCtorEq,
      and_false, or_false, and_true, Option.some.injEq, or_and_right, and_assoc, exists_or,
      exists_and_left, exists_eq_left', Value.map.injEq, givenBy_iff]
  | _ => exact iff_of_false (by rintro ⟨⟩) (by rintro ⟨_, ⟨⟩, _⟩)

end Reading

theorem entityEntry_iff {entry : Key × Value} {n : Int} {e : Entity} : EntityEntry entry n e ↔
    integer entry.1.value = .ok n ∧ Entity.decoder (withKey entry.1 entry.2) = .ok e := by
  rw [integer_eq_ok_iff, Entity.decoder_withKey_iff]
  exact ⟨fun h => ⟨h.key, h.entity⟩, fun h => ⟨h.1, h.2⟩⟩

theorem EntityEntry.unique {entry : Key × Value} {m n : Int} {d e : Entity}
    (h : EntityEntry entry m d) (h' : EntityEntry entry n e) : m = n ∧ d = e := by
  obtain ⟨hm, hd⟩ := entityEntry_iff.mp h
  obtain ⟨hn, he⟩ := entityEntry_iff.mp h'
  exact ⟨ok.inj (hm.symm.trans hn), ok.inj (hd.symm.trans he)⟩

end BuildingQuery
