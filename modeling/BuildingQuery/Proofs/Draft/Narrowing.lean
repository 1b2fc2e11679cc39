import BuildingQuery.Draft
import BuildingQuery.Proofs.Checked
import BuildingQuery.Proofs.Index.Types
import BuildingQuery.Proofs.Selection.Found

/-! Giving a draft a predefined type. The type goes into the first test of types, or becomes a test
of its own; either way a rule of which all conditions must hold selects those of its elements that
have the type. -/

namespace BuildingQuery

def TypeTest.narrowed (t : TypeTest) (p : String) : TypeTest :=
  { t with predefinedType := some (.str p) }

theorem TypeTest.holds_narrowed (t : TypeTest) (p : String) (e : Element) :
    (t.narrowed p).holds e =
      .ok (t.names.toList.any (t.typeHolds e) && Pattern.acceptsOpt p e.predefinedType) := by
  have hnames : (t.narrowed p).names.toList.any ((t.narrowed p).typeHolds e) =
      t.names.toList.any (t.typeHolds e) := rfl
  have hp : (t.narrowed p).predefinedHolds e = .ok (Pattern.acceptsOpt p e.predefinedType) := rfl
  rw [holds, hnames, hp]
  cases t.names.toList.any (t.typeHolds e) <;> rfl

/-- The test of the attribute for a predefined type. -/
def AttributeTest.ofPredefinedType (p : String) : AttributeTest := ⟨.predefinedType, .equals, p⟩

theorem AttributeTest.holds_ofPredefinedType (p : String) (e : Element) :
    (ofPredefinedType p).holds e = .ok (Pattern.acceptsOpt p e.predefinedType) := by
  have htext : e.textOf (ofPredefinedType p).subject = e.predefinedType := rfl
  rw [holds, htext]
  cases e.predefinedType <;> rfl

namespace Condition

variable {ix : Option Index} {e : Element} {pre post : List Condition} {c c' : Condition}
  {b q : Bool}

/-- A condition that is narrowed narrows the conditions it stands among. -/
theorem allHold_narrowed (hc : ∀ a, c.holds ix e = .ok a → c'.holds ix e = .ok (a && q))
    (h : allHold ix e (pre ++ c :: post) = .ok b) :
    allHold ix e (pre ++ c' :: post) = .ok (b && q) := by
  rw [allHold_tries.append, allHold_tries.cons] at h ⊢
  cases hpre : allHold ix e pre with
  | error f =>
    rw [hpre] at h
    nomatch h
  | ok x =>
    rw [hpre] at h
    cases x with
    | false =>
      obtain rfl : false = b := Except.ok.inj h
      rfl
    | true =>
      cases ha : c.holds ix e with
      | error f =>
        rw [ha] at h
        nomatch h
      | ok a =>
        rw [ha] at h
        rw [hc a ha]
        cases a with
        | false =>
          obtain rfl : false = b := Except.ok.inj h
          rfl
        | true =>
          -- The conditions behind are tried only if what was added holds too.
          have hpost : allHold ix e post = .ok b := h
          cases q with
          | false => cases b <;> rfl
          | true => cases b <;> exact hpost

theorem allHold_concat (hc : c.holds ix e = .ok q) (h : allHold ix e pre = .ok b) :
    allHold ix e (pre ++ [c]) = .ok (b && q) := by
  rw [allHold_tries.append, h, allHold_tries.cons, hc]
  cases b <;> cases q <;> rfl

end Condition

/-- The test of types that an entry is. -/
def DraftEntry.types? : DraftEntry → Option TypeTest
  | .condition (.type t) => some t
  | _ => none

namespace Draft

variable {d : Draft} {r : Rule} {p : String}

/-- The test of types that is narrowed is the first one, wherever it stands. -/
theorem narrowTypes?_split (v : Value) (es : List DraftEntry) :
    narrowTypes? v es = none ∨
    ∃ pre t post, es = pre ++ .condition (.type t) :: post ∧
      es.findSome? DraftEntry.types? = some t ∧
      narrowTypes? v es = some (pre ++ .condition (.type
        { t with predefinedType := if v.isNull then none else some v }) :: post) := by
  induction es with
  | nil => exact .inl rfl
  | cons entry es ih =>
    have hother : entry.types? = none →
        narrowTypes? v (entry :: es) = (narrowTypes? v es).map (entry :: ·) := by
      intro hentry
      cases entry with
      | other v => rfl
      | condition c => cases c <;> first | rfl | nomatch hentry
    cases hentry : entry.types? with
    | some t =>
      obtain rfl : entry = .condition (.type t) := by
        cases entry with
        | other v => nomatch hentry
        | condition c => cases c <;> simp_all [DraftEntry.types?]
      exact .inr ⟨[], t, es, rfl, rfl, rfl⟩
    | none =>
      rw [hother hentry, List.findSome?_cons, hentry]
      rcases ih with ih | ⟨pre, t, post, rfl, hfirst, ih⟩
      · exact .inl (by rw [ih]; rfl)
      · exact .inr ⟨entry :: pre, t, post, rfl, hfirst, by rw [ih]; rfl⟩

/-- The conditions are what the entries are read as. -/
def Reads (es : List DraftEntry) (cs : List Condition) : Prop :=
  List.Forall₂ (fun entry c => entryCondition entry = .ok c) es cs

theorem Reads.split {pre post : List DraftEntry} {entry : DraftEntry} {cs : List Condition}
    (h : Reads (pre ++ entry :: post) cs) :
    ∃ cpre c cpost, cs = cpre ++ c :: cpost ∧ Reads pre cpre ∧ entryCondition entry = .ok c ∧
      Reads post cpost := by
  have hpre := List.forall₂_take pre.length h
  have hrest := List.forall₂_drop pre.length h
  rw [List.take_left] at hpre
  rw [List.drop_left] at hrest
  obtain ⟨c, cpost, hc, hpost, hdrop⟩ := List.forall₂_cons_left_iff.mp hrest
  exact ⟨_, c, cpost, by rw [← hdrop, List.take_append_drop], hpre, hc, hpost⟩

theorem build_eq_ok (h : d.build = .ok r) : Reads d.entries r.conditions ∧ r.mode = d.mode ∧
    ∀ es cs, Reads es cs → ({ d with entries := es } : Draft).build =
      .ok { r with conditions := cs } := by
  rw [build] at h
  obtain ⟨f₁, m, h₁, hm, rfl⟩ := Checked.seq_eq_ok.mp h
  obtain ⟨f₂, cs, h₂, hcs, rfl⟩ := Checked.seq_eq_ok.mp h₁
  obtain ⟨f₃, desc, h₃, hdesc, rfl⟩ := Checked.seq_eq_ok.mp h₂
  obtain ⟨f₄, name, h₄, hname, rfl⟩ := Checked.seq_eq_ok.mp h₃
  obtain ⟨id, hid, rfl⟩ := Checked.map_eq_ok.mp h₄
  obtain rfl := Checked.ok.inj hm
  refine ⟨Checked.traverse_eq_ok_iff.mp (Checked.under_eq_ok.mp hcs), rfl, fun es cs hes => ?_⟩
  have htraverse : Checked.traverse entryCondition 0 es = .ok cs :=
    Checked.traverse_eq_ok_iff.mpr hes
  rw [build, hid, hname, hdesc, htraverse]
  rfl

theorem step_predefinedType (hb : d.build = .ok r)
    (ht : ∀ t, d.entries.findSome? DraftEntry.types? = some t → t.predefinedType = none) :
    ∃ d' cs, d.step (.predefinedType (.str p)) = (d', none) ∧
      d'.build = .ok { r with conditions := cs } ∧
      ∀ ix e b, Condition.allHold ix e r.conditions = .ok b →
        Condition.allHold ix e cs = .ok (b && Pattern.acceptsOpt p e.predefinedType) := by
  obtain ⟨hreads, -, hbuild⟩ := build_eq_ok hb
  rcases narrowTypes?_split (.str p) d.entries with hnone | ⟨pre, t, post, hes, hfirst, hsome⟩
  · have hstep : d.step (.predefinedType (.str p)) =
        (d.push (.attributeText (.ofPredefinedType p)), none) := by
      unfold step
      simp only [hnone]
      rfl
    have hone : Reads [.condition (.attributeText (.ofPredefinedType p))]
        [.attributeText (.ofPredefinedType p)] := .cons rfl .nil
    refine ⟨_, _, hstep, hbuild _ _ (List.rel_append hreads hone), fun ix e b h => ?_⟩
    exact Condition.allHold_concat (AttributeTest.holds_ofPredefinedType p e) h
  · have hstep : d.step (.predefinedType (.str p)) =
        ({ d with entries := pre ++ .condition (.type (t.narrowed p)) :: post }, none) := by
      unfold step
      simp only [hsome]
      rfl
    rw [hes] at hreads
    obtain ⟨cpre, c, cpost, hcs, hpre, hc, hpost⟩ := hreads.split
    obtain rfl : .type t = c := Checked.ok.inj hc
    have hread : Reads (pre ++ .condition (.type (t.narrowed p)) :: post)
        (cpre ++ .type (t.narrowed p) :: cpost) := List.rel_append hpre (.cons rfl hpost)
    refine ⟨_, _, hstep, hbuild _ _ hread, fun ix e b h => ?_⟩
    rw [hcs] at h
    refine Condition.allHold_narrowed (fun a ha => ?_) h
    rw [Condition.holds, TypeTest.holds_eq_any (ht t hfirst)] at ha
    rw [Condition.holds, TypeTest.holds_narrowed, Except.ok.inj ha]

/-- A draft of which all conditions must hold, and whose first test of types has no predefined type
yet if there is one, takes any predefined type. The rule that can be built then selects, from every
index, those of the elements of the rule before whose predefined type the pattern accepts. -/
theorem predefinedType_narrows (d : Draft) (p : String) (hm : d.mode = .all)
    (ht : ∀ t, d.entries.findSome? DraftEntry.types? = some t → t.predefinedType = none)
    (hb : d.build = .ok r) :
    ∃ d' r', d.step (.predefinedType (.str p)) = (d', none) ∧ d'.build = .ok r' ∧
      ∀ ix s, Selection.of ix r = .ok s →
        ∃ s', Selection.of ix r' = .ok s' ∧
          (∃ found : List Element, found.Sublist ix.records ∧ s.ids = found.map (·.id) ∧
            s'.ids =
              (found.filter fun e => Pattern.acceptsOpt p e.predefinedType).map (·.id)) ∧
          (ix.Keyed → s'.elements ix =
            (s.elements ix).filter fun e => Pattern.acceptsOpt p e.predefinedType) := by
  obtain ⟨-, hmode, -⟩ := build_eq_ok hb
  obtain ⟨d', cs, hstep, hbuild, hholds⟩ := step_predefinedType (p := p) hb ht
  refine ⟨d', _, hstep, hbuild, fun ix s hs => ?_⟩
  obtain ⟨hmet, hids⟩ := Selection.eq_of_ok hs
  have hall : r.mode = .all := hmode.trans hm
  have hnarrow : ∀ e ∈ ix.records,
      ({ r with conditions := cs } : Rule).mode.holds (some ix) e cs =
        .ok (r.body.isMetBy (some ix) e && Pattern.acceptsOpt p e.predefinedType) := by
    intro e he
    have hr := hmet e he
    rw [r.holds_body, hall] at hr
    have hmode' : ({ r with conditions := cs } : Rule).mode = .all := hall
    rw [hmode']
    exact hholds _ _ _ hr
  have hs' := Selection.of_eq_ok hnarrow
  have hfilter : ix.records.filter (fun e =>
        r.body.isMetBy (some ix) e && Pattern.acceptsOpt p e.predefinedType) =
      (ix.records.filter fun e => r.body.isMetBy (some ix) e).filter fun e =>
        Pattern.acceptsOpt p e.predefinedType := by
    rw [List.filter_filter]
    exact List.filter_congr fun e _ => Bool.and_comm _ _
  refine ⟨_, hs', ⟨_, List.filter_sublist, hids, by rw [hfilter]⟩, fun hk => ?_⟩
  rw [Selection.elements_of_sublist hk List.filter_sublist rfl,
    Selection.elements_of_sublist hk List.filter_sublist hids, hfilter]

/-- A draft for walls and doors, and its rule. -/
def wallsOrDoors : Draft :=
  ((empty (.int 0)).step (.select (.list [.str "IfcWall", .str "IfcDoor"]))).1

def wallsOrDoorsRule : Rule where
  id := "rule-0"
  name := "Unnamed Rule"
  description := none
  conditions := [.type ⟨.many ["IfcWall", "IfcDoor"], true, none⟩]
  mode := .all

def solidAndPlain : Index where
  elements := [
    (1, { Element.plain 1 "IfcWall" with predefinedType := some "SOLIDWALL" }),
    (2, Element.plain 2 "IfcWall"),
    (3, { Element.plain 3 "IfcDoor" with predefinedType := some "GATE" })]
  hierarchy := ⟨[]⟩

theorem predefinedType_narrows_solid :
    Selection.of solidAndPlain wallsOrDoorsRule = .ok ⟨wallsOrDoorsRule, [1, 2, 3]⟩ ∧
      ∃ d' r' s', wallsOrDoors.step (.predefinedType (.str "solid*")) = (d', none) ∧
        d'.build = .ok r' ∧ Selection.of solidAndPlain r' = .ok s' ∧
        (s'.elements solidAndPlain).map (·.id) = [1] := by
  have hs : Selection.of solidAndPlain wallsOrDoorsRule =
      .ok ⟨wallsOrDoorsRule, [1, 2, 3]⟩ := by rfl
  have hk : solidAndPlain.Keyed := ⟨by decide, by decide⟩
  have ht : ∀ t, wallsOrDoors.entries.findSome? DraftEntry.types? = some t →
      t.predefinedType = none := by
    rintro t ⟨⟩
    rfl
  obtain ⟨d', r', hstep, hbuild, hselect⟩ :=
    predefinedType_narrows (r := wallsOrDoorsRule) wallsOrDoors "solid*" rfl ht rfl
  obtain ⟨s', hs', -, hfound⟩ := hselect _ _ hs
  have hids := congrArg (List.map Element.id) (hfound hk)
  exact ⟨hs, d', r', s', hstep, hbuild, hs', hids.trans rfl⟩

end Draft

end BuildingQuery
