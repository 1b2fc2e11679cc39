import BuildingQuery.Proofs.Pattern
import BuildingQuery.Proofs.Selection.Locality

/-! Conditions and records with the case of ASCII letters changed in what is matched: in the
patterns of the conditions, and in the names and texts of the records. The outcome of a test is the
same, faults included, unless a regular expression is among the conditions. -/

namespace BuildingQuery

section Congruence

variable {α β : Type} {R : α → β → Prop} {p : α → Bool} {q : β → Bool}

theorem rel_self {R : α → α → Prop} (h : ∀ a, R a a) (o : Option α) : Option.Rel R o o := by
  cases o with
  | none => exact .none
  | some a => exact .some (h a)

theorem any_congr_of_forall₂ {as : List α} {bs : List β} (h : List.Forall₂ R as bs)
    (hpq : ∀ a b, R a b → p a = q b) : as.any p = bs.any q := by
  induction h with
  | nil => rfl
  | cons hab _ ih => rw [List.any_cons, List.any_cons, hpq _ _ hab, ih]

theorem any_congr_of_rel {o : Option α} {o' : Option β} (h : Option.Rel R o o')
    (hpq : ∀ a b, R a b → p a = q b) : o.any p = o'.any q := by
  cases h with
  | none => rfl
  | some hab => exact hpq _ _ hab

theorem all_congr_of_rel {o : Option α} {o' : Option β} (h : Option.Rel R o o')
    (hpq : ∀ a b, R a b → p a = q b) : o.all p = o'.all q := by
  cases h with
  | none => rfl
  | some hab => exact hpq _ _ hab

theorem isSome_congr_of_rel {o : Option α} {o' : Option β} (h : Option.Rel R o o') :
    o.isSome = o'.isSome := by
  cases h <;> rfl

theorem forall₂_of_mem {S : α → β → Prop} {as : List α} {bs : List β} (h : List.Forall₂ R as bs)
    (hs : ∀ a ∈ as, ∀ b, R a b → S a b) : List.Forall₂ S as bs := by
  induction h with
  | nil => exact .nil
  | cons hab _ ih =>
    obtain ⟨ha, has⟩ := List.forall_mem_cons.mp hs
    exact .cons (ha _ hab) (ih has)

end Congruence

section Records

structure ElementMaterial.Recased (m n : ElementMaterial) : Prop where
  name : Text.Recased m.name n.name
  layers : List.Forall₂ (fun k l => Text.Recased k.material l.material) m.layers n.layers
  totalThickness : m.totalThickness = n.totalThickness

structure Classification.Recased (c d : Classification) : Prop where
  system : Text.Recased c.system d.system
  code : Text.Recased c.code d.code
  name : Text.Recased c.name d.name

/-- The names and texts of the records differ at most in the case of ASCII letters; the names of
property sets and all values are the same. -/
structure Element.Recased (e f : Element) : Prop where
  typeName : Text.Recased e.typeName f.typeName
  ancestry : List.Forall₂ Text.Recased e.ancestry f.ancestry
  texts : ∀ a, Option.Rel Text.Recased (e.textOf a) (f.textOf a)
  places : ∀ l, Option.Rel Text.Recased (e.location.at l) (f.location.at l)
  storeyElevation : e.location.storeyElevation = f.location.storeyElevation
  properties : e.properties = f.properties
  quantities : List.Forall₂ (fun s t => Text.Recased s.1 t.1 ∧ s.2 = t.2) e.quantities f.quantities
  material : Option.Rel ElementMaterial.Recased e.material f.material
  classifications : List.Forall₂ Classification.Recased e.classifications f.classifications
  relations : e.relations = f.relations

/-- Under every id the indexes have records that differ in no more, or none. -/
def Index.Recased (ix ix' : Option Index) : Prop :=
  ∀ id, Option.Rel Element.Recased (found? ix id) (found? ix' id)

theorem Element.Recased.refl (e : Element) : e.Recased e where
  typeName := .refl _
  ancestry := List.forall₂_same.mpr fun _ _ => .refl _
  texts _ := rel_self .refl _
  places _ := rel_self .refl _
  storeyElevation := rfl
  properties := rfl
  quantities := List.forall₂_same.mpr fun _ _ => ⟨.refl _, rfl⟩
  material := rel_self (fun _ => ⟨.refl _, List.forall₂_same.mpr fun _ _ => .refl _, rfl⟩) _
  classifications := List.forall₂_same.mpr fun _ _ => ⟨.refl _, .refl _, .refl _⟩
  relations := rfl

theorem Index.Recased.refl (ix : Option Index) : Index.Recased ix ix :=
  fun _ => rel_self Element.Recased.refl _

end Records

section Conditions

inductive Value.Recased : Value → Value → Prop where
  | text {s t : String} (h : Text.Recased s t) : Recased (.str s) (.str t)
  | same (v : Value) : Recased v v

structure TypeTest.Recased (t u : TypeTest) : Prop where
  names : List.Forall₂ Text.Recased t.names.toList u.names.toList
  subtypes : t.subtypes = u.subtypes
  predefinedType : Option.Rel Value.Recased t.predefinedType u.predefinedType

/-- A set that is looked up by its very name keeps it. -/
structure PropertyTest.Recased (t u : PropertyTest) : Prop where
  set : Text.Recased t.set u.set
  set_eq : Pattern.hasWildcard t.set = false → t.set = u.set
  rest : u = { t with set := u.set }

structure SpatialTest.Recased (t u : SpatialTest) : Prop where
  name : Option.Rel Text.Recased t.name u.name
  rest : u = { t with name := u.name }

structure MaterialTest.Recased (t u : MaterialTest) : Prop where
  name : Option.Rel Text.Recased t.name u.name
  rest : u = { t with name := u.name }

structure ClassificationTest.Recased (t u : ClassificationTest) : Prop where
  system : Option.Rel Text.Recased t.system u.system
  code : Option.Rel Text.Recased t.code u.code
  name : Option.Rel Text.Recased t.name u.name

structure AttributeTest.Recased (t u : AttributeTest) : Prop where
  value : Text.Recased t.value u.value
  rest : u = { t with value := u.value }

structure QuantityTest.Recased (t u : QuantityTest) : Prop where
  set : Option.Rel Text.Recased t.set u.set
  rest : u = { t with set := u.set }

structure RelationTarget.Recased (t u : RelationTarget) : Prop where
  typeName : Option.Rel Text.Recased t.typeName u.typeName
  name : Option.Rel Text.Recased t.name u.name

structure RelationTest.Recased (t u : RelationTest) : Prop where
  relation : t.relation = u.relation
  target : Option.Rel RelationTarget.Recased t.target u.target

/-- Trees of one shape whose patterns differ at most in the case of ASCII letters. -/
inductive Condition.Recased : Condition → Condition → Prop where
  | type {t u : TypeTest} (h : t.Recased u) : Recased (.type t) (.type u)
  | property {t u : PropertyTest} (h : t.Recased u) : Recased (.property t) (.property u)
  | spatial {t u : SpatialTest} (h : t.Recased u) : Recased (.spatial t) (.spatial u)
  | material {t u : MaterialTest} (h : t.Recased u) : Recased (.material t) (.material u)
  | classification {t u : ClassificationTest} (h : t.Recased u) :
    Recased (.classification t) (.classification u)
  | attributeText {t u : AttributeTest} (h : t.Recased u) :
    Recased (.attributeText t) (.attributeText u)
  | quantity {t u : QuantityTest} (h : t.Recased u) : Recased (.quantity t) (.quantity u)
  | relation {t u : RelationTest} (h : t.Recased u) : Recased (.relation t) (.relation u)
  | group (k : GroupKind) {cs ds : List Condition} (h : List.Forall₂ Recased cs ds) :
    Recased (.group k cs) (.group k ds)
  | unknown (kind : String) (fields : List (Key × Value)) :
    Recased (.unknown kind fields) (.unknown kind fields)

/-- No text of a record is searched with a regular expression. -/
def Condition.HasNoExpression (c : Condition) : Prop :=
  ∀ t, attributeText t ∈ c.leaves → t.comparison ≠ .matches

end Conditions

section Texts

open Text Pattern

variable {s t : Option String} {p q : String}

theorem meansAll_congr (h : Option.Rel Text.Recased s t) :
    Element.meansAll s = Element.meansAll t := by
  cases h with
  | none => rfl
  | some h =>
    rw [Bool.eq_iff_iff]
    simp [Element.meansAll, h.eq_star_iff]

theorem acceptedBy_congr {r r' : Option String} (hr : Option.Rel Text.Recased r r')
    (h : Option.Rel Text.Recased s t) : acceptedBy r s = acceptedBy r' t :=
  all_congr_of_rel hr fun _ _ hp => acceptsOpt_congr hp h

theorem Comparison.holdsOfText_recased {op : TextComparison} (hop : op ≠ .matches)
    (hs : Option.Rel Text.Recased s t) (hp : Text.Recased p q) :
    op.toComparison.holdsOfText s p = op.toComparison.holdsOfText t q := by
  cases hs with
  | none => rfl
  | @some s t h =>
    have hstar : Text.Recased "*" "*" := .refl _
    have hlow := lowerChars_congr h
    have hother := lowerChars_congr hp
    have hequal := accepts_congr hp h
    have hpart := accepts_congr ((hstar.append hp).append hstar) h
    have hstart := accepts_congr (hp.append hstar) h
    have hend := accepts_congr (hstar.append hp) h
    cases op with
    | «matches» => exact absurd rfl hop
    | _ =>
      simp only [TextComparison.toComparison, holdsOfText, hasWildcard_congr hp, hlow, hother,
        hequal, hpart, hstart, hend]

end Texts

section Leaves

open Text Pattern

variable {e f : Element} {ix ix' : Option Index}

theorem TypeTest.typeHolds_recased {t u : TypeTest} (h : t.Recased u) (he : e.Recased f)
    {n m : String} (hn : Text.Recased n m) : t.typeHolds e n = u.typeHolds f m := by
  rw [typeHolds, typeHolds, h.subtypes, accepts_congr hn he.typeName,
    any_congr_of_forall₂ he.ancestry fun _ _ hs => accepts_congr hn hs]

theorem TypeTest.predefinedHolds_recased {t u : TypeTest} (h : t.Recased u) (he : e.Recased f) :
    t.predefinedHolds e = u.predefinedHolds f := by
  have hs : Option.Rel Text.Recased e.predefinedType f.predefinedType := he.texts .predefinedType
  have hv := h.predefinedType
  rw [predefinedHolds, predefinedHolds]
  generalize t.predefinedType = v, u.predefinedType = w, e.predefinedType = s,
    f.predefinedType = s' at hv hs
  cases hv with
  | none => rfl
  | @some v w hv =>
    cases hv with
    | text hp => simp only [acceptsOpt_congr hp hs]
    | same =>
      cases v with
      | str p => simp only [acceptsOpt_congr (.refl p) hs]
      | _ => cases hs <;> rfl

theorem TypeTest.holds_recased {t u : TypeTest} (h : t.Recased u) (he : e.Recased f) :
    t.holds e = u.holds f := by
  rw [holds, holds, predefinedHolds_recased h he,
    any_congr_of_forall₂ h.names fun _ _ hn => typeHolds_recased h he hn]

theorem Element.property?_recased {t u : PropertyTest} (h : t.Recased u) (he : e.Recased f) :
    e.property? t.set t.name = f.property? u.set u.name := by
  have hname : u.name = t.name := by rw [h.rest]
  have hstar := h.set.eq_star_iff
  have hall : (t.set == "*") = (u.set == "*") := by
    rw [Bool.eq_iff_iff, beq_iff_eq, beq_iff_eq, hstar]
  have haccepts : accepts t.set = accepts u.set := funext fun s => accepts_congr h.set (.refl s)
  rw [property?, property?, ← he.properties, ← hasWildcard_congr h.set, hname, hall, haccepts]
  split
  case isTrue => rfl
  case isFalse hexact =>
    have hwild : hasWildcard t.set = false := by
      rw [Bool.or_eq_true, not_or, Bool.not_eq_true, Bool.not_eq_true] at hexact
      exact hexact.2
    rw [h.set_eq hwild]

theorem PropertyTest.holds_recased {t u : PropertyTest} (h : t.Recased u) (he : e.Recased f) :
    t.holds e = u.holds f := by
  have hproperty := Element.property?_recased h he
  rw [holds, holds, hproperty, h.rest]

theorem SpatialTest.holds_recased {t u : SpatialTest} (h : t.Recased u) (he : e.Recased f) :
    t.holds e = u.holds f := by
  have hplace := he.places t.level
  have hnamed : (t.name.all fun p => (e.location.at t.level).any fun s => s != "" && accepts p s) =
      u.name.all fun p => (f.location.at t.level).any fun s => s != "" && accepts p s := by
    refine all_congr_of_rel h.name fun p q hp => any_congr_of_rel hplace fun s s' hs => ?_
    have hempty := hs.eq_empty_iff
    rw [accepts_congr hp hs]
    simp only [bne, beq_eq_decide, hempty]
  have hsome := isSome_congr_of_rel hplace
  have hgiven := isSome_congr_of_rel h.name
  rw [holds, holds, h.rest]
  simp only [hnamed, hsome, hgiven, he.storeyElevation]

theorem MaterialTest.holds_recased {t u : MaterialTest} (h : t.Recased u) (he : e.Recased f) :
    t.holds e = u.holds f := by
  rw [holds, holds]
  refine any_congr_of_rel he.material fun m n hm => ?_
  have hname : (t.name.all fun p => accepts p m.name || m.layers.any (accepts p ·.material)) =
      u.name.all fun p => accepts p n.name || n.layers.any (accepts p ·.material) := by
    refine all_congr_of_rel h.name fun p q hp => ?_
    rw [accepts_congr hp hm.name,
      any_congr_of_forall₂ hm.layers fun _ _ hl => accepts_congr hp hl]
  rw [hname, hm.totalThickness, h.rest]

theorem ClassificationTest.holds_recased {t u : ClassificationTest} (h : t.Recased u)
    (he : e.Recased f) : t.holds e = u.holds f := by
  rw [holds, holds]
  refine any_congr_of_forall₂ he.classifications fun c d hc => ?_
  rw [meansAll_congr h.system, acceptedBy_congr h.system (.some hc.system),
    acceptedBy_congr h.code (.some hc.code), acceptedBy_congr h.name (.some hc.name)]

theorem AttributeTest.holds_recased {t u : AttributeTest} (h : t.Recased u) (he : e.Recased f)
    (hop : t.comparison ≠ .matches) : t.holds e = u.holds f := by
  have htext := Comparison.holdsOfText_recased hop (he.texts t.subject) h.value
  rw [holds, holds, htext, h.rest]

theorem Element.quantity?_recased {set set' : Option String} (h : Option.Rel Text.Recased set set')
    (he : e.Recased f) (name : String) : e.quantity? set name = f.quantity? set' name := by
  rw [quantity?, quantity?, meansAll_congr h]
  have hq := he.quantities
  generalize e.quantities = es, f.quantities = fs at hq
  induction hq with
  | nil => rfl
  | cons hst _ ih =>
    rw [List.findSome?_cons, List.findSome?_cons, ih, hst.2,
      any_congr_of_rel h fun _ _ hp => accepts_congr hp hst.1]

theorem QuantityTest.holds_recased {t u : QuantityTest} (h : t.Recased u) (he : e.Recased f) :
    t.holds e = u.holds f := by
  have hquantity := Element.quantity?_recased h.set he t.name
  rw [holds, holds, hquantity, h.rest]

theorem RelationTarget.holds_recased {t u : RelationTarget} (h : t.Recased u) (he : e.Recased f) :
    t.holds e = u.holds f := by
  have htype : (t.typeName.all fun p => e.ancestry.any (accepts p)) =
      u.typeName.all fun p => f.ancestry.any (accepts p) :=
    all_congr_of_rel h.typeName fun _ _ hp =>
      any_congr_of_forall₂ he.ancestry fun _ _ hs => accepts_congr hp hs
  have hname : acceptedBy t.name e.name = acceptedBy u.name f.name :=
    acceptedBy_congr h.name (he.texts .name)
  rw [holds, holds, htype, hname]

theorem RelationTarget.isOpen_recased {t u : RelationTarget} (h : t.Recased u) :
    t.isOpen = u.isOpen := by
  simp only [isOpen, ← Option.not_isSome, isSome_congr_of_rel h.typeName,
    isSome_congr_of_rel h.name]

theorem RelationTest.holds_recased {t u : RelationTest} (h : t.Recased u) (he : e.Recased f)
    (hix : Index.Recased ix ix') : t.holds ix e = u.holds ix' f := by
  have hids : e.related t.relation = f.related u.relation := by
    rw [← h.relation]
    cases t.relation <;> simp only [Element.related, he.relations]
  have htarget := h.target
  rw [holds, holds, hids]
  generalize t.target = target, u.target = target' at htarget
  cases htarget with
  | none => rfl
  | @some a b ht =>
    have hfound : ∀ id, (Index.found? ix id).any a.holds = (Index.found? ix' id).any b.holds :=
      fun id => any_congr_of_rel (hix id) fun _ _ hr => RelationTarget.holds_recased ht hr
    simp only [Index.found?] at hfound
    simp only [RelationTarget.isOpen_recased ht, hfound]

end Leaves

namespace Condition

variable {e f : Element} {ix ix' : Option Index}

theorem hasNoExpression_group {k : GroupKind} {cs : List Condition} :
    (group k cs).HasNoExpression ↔ ∀ c ∈ cs, c.HasNoExpression := by
  simp only [HasNoExpression, mem_leaves_group]
  grind

/-- The case of ASCII letters makes no difference to the outcome of a test. -/
theorem outcome_ignores_case {c d : Condition} (hc : c.Recased d) (hm : c.HasNoExpression)
    (he : e.Recased f) (hix : Index.Recased ix ix') : c.holds ix e = d.holds ix' f := by
  induction c using tree_induction generalizing d with
  | leaf c hleaf =>
    cases hc with
    | type h => simpa only [holds] using TypeTest.holds_recased h he
    | property h => simpa only [holds] using PropertyTest.holds_recased h he
    | spatial h => simpa only [holds] using SpatialTest.holds_recased h he
    | material h => simp only [holds, MaterialTest.holds_recased h he]
    | classification h => simp only [holds, ClassificationTest.holds_recased h he]
    | @attributeText t u h =>
      have hop := hm t (by simp [leaves])
      simpa only [holds] using AttributeTest.holds_recased h he hop
    | quantity h => simpa only [holds] using QuantityTest.holds_recased h he
    | relation h => simp only [holds, RelationTest.holds_recased h he hix]
    | group k h => exact absurd hleaf Bool.false_ne_true
    | unknown kind fields => simp only [holds]
  | group k cs ih =>
    cases hc with
    | group _ h =>
      have hmembers := hasNoExpression_group.mp hm
      exact holds_group_congr (forall₂_of_mem h fun c hc d hcd => ih c hc hcd (hmembers c hc))

/-- A wall in a street, and the same wall and street written otherwise. -/
def streetWall : Element :=
  { Element.plain 1 "IfcWall" with
    ancestry := ["IfcElement", "IfcWall"]
    name := some "Wall at ΟΔΟΣ"
    location := { building := some "Street 5 ΟΔΟΣ" } }

def shoutedWall : Element :=
  { Element.plain 1 "IFCWALL" with
    ancestry := ["IFCELEMENT", "ifcWall"]
    name := some "WALL AT ΟΔΟΣ"
    location := { building := some "STREET 5 ΟΔΟΣ" } }

def inStreet : Condition := .group .all [
  .type ⟨.one "ifc*", true, none⟩,
  .spatial ⟨.building, some "street ? ΟΔΟΣ", none⟩,
  .group .none [.attributeText ⟨.name, .startsWith, "door"⟩]]

def inShoutedStreet : Condition := .group .all [
  .type ⟨.one "IFC*", true, none⟩,
  .spatial ⟨.building, some "STREET ? ΟΔΟΣ", none⟩,
  .group .none [.attributeText ⟨.name, .startsWith, "DOOR"⟩]]

theorem outcome_ignores_case_street :
    inStreet.Recased inShoutedStreet ∧ inStreet.HasNoExpression ∧ streetWall.Recased shoutedWall ∧
      inStreet.holds (some doorway) streetWall =
        inShoutedStreet.holds (some doorway) shoutedWall := by
  have hc : inStreet.Recased inShoutedStreet := by
    refine .group _ (.cons (.type ⟨by decide, rfl, .none⟩) (.cons (.spatial ⟨?_, rfl⟩)
      (.cons (.group _ (.cons (.attributeText ⟨by decide, rfl⟩) .nil)) .nil)))
    exact .some (by decide)
  have hm : inStreet.HasNoExpression := by
    simp [HasNoExpression, inStreet, leaves, leavesOfAll]
  have he : streetWall.Recased shoutedWall := by
    refine ⟨by decide, by decide, ?_, ?_, rfl, rfl, .nil, .none, .nil, rfl⟩
    · intro a
      cases a
      case name => exact .some (by decide)
      all_goals exact .none
    · intro l
      cases l
      case building => exact .some (by decide)
      all_goals exact .none
  exact ⟨hc, hm, he, outcome_ignores_case hc hm he (.refl _)⟩

end Condition

end BuildingQuery
