import BuildingQuery.Condition.Evaluate
import BuildingQuery.Proofs.Condition.JsonText
import BuildingQuery.Proofs.Pattern
import BuildingQuery.Proofs.Summary.Counts
import BuildingQuery.Proofs.Summary.Groups

/-! What a summary lists can be selected. The condition with the name or value of an entry holds of
all records that the entry counts. -/

namespace BuildingQuery

/-- The condition holds of the records that are counted. -/
structure Selects (ix : Index) (c : Condition) (counted : Element → Bool) (n : Nat) : Prop where
  count_eq : n = ix.records.countP counted
  holds : ∀ e ∈ ix.records, counted e = true → c.holds (some ix) e = .ok true
  le_found : n ≤ ix.records.countP fun e => c.holds (some ix) e = .ok true

/-- A value that a condition can be asked to equal. -/
def Value.isGiven : Value → Bool
  | .null => false
  | .float x => x.isFinite
  | _ => true

structure Summary.Selectable (ix : Index) (s : Summary) : Prop where
  types : ∀ t ∈ s.types,
    Selects ix (.type ⟨.one t.name, false, none⟩) (fun e => e.typeName == t.name) t.count
  storeys : ∀ t ∈ s.places.storeys,
    Selects ix (.spatial ⟨.storey, some t.name, none⟩) (fun e => e.location.storey == some t.name)
      t.elementCount
  storeysOfBuildings : ∀ b ∈ s.places.buildings, b.storeys ⊆ s.places.storeys
  materials : ∀ m ∈ s.materials,
    Selects ix (.material ⟨some m.name, none, none⟩) (fun e => e.material.any (·.name == m.name))
      m.elementCount
  /-- A set whose name has wildcards is a pattern for other sets, too. -/
  values : ∀ set ∈ s.propertySets, Pattern.hasWildcard set.name = false → ∀ p ∈ set.properties,
    ∀ v ∈ p.values, v.1.isGiven = true →
      Selects ix (.property ⟨set.name, p.name, .equals, v.1, none⟩)
        (fun e => (memberOf e.properties set.name p.name).any fun q =>
          Json.text none q.value == Json.text none v.1) v.2

theorem Selects.of_holds {ix : Index} {c : Condition} {counted : Element → Bool} {n : Nat}
    (hn : n = ix.records.countP counted)
    (h : ∀ e ∈ ix.records, counted e = true → c.holds (some ix) e = .ok true) :
    Selects ix c counted n := by
  refine ⟨hn, h, hn ▸ List.countP_mono_left fun e he hc => ?_⟩
  exact decide_eq_true (h e he hc)

section Values

theorem Json.text_inj {v w : Value} (hv : v.isScalar = true) (hw : w.isScalar = true)
    (h : Json.text none v = Json.text none w) : v = w := by
  have hread := Json.read?_text (Value.isData_of_isScalar hv) none
  rw [h, Json.read?_text (Value.isData_of_isScalar hw)] at hread
  exact (Option.some.inj hread).symm

theorem Comparison.compare_zero_tolerance :
    (Value.Numeric.int 0).compare (.float tolerance) = some .lt := by decide +kernel

theorem Comparison.compare_floatZero_tolerance :
    (Value.Numeric.float 0).compare (.float tolerance) = some .lt := by decide +kernel

/-- A value equals itself, unless it is missing or not finite. -/
theorem Comparison.equals_self {v : Value} (hs : v.isScalar = true) (hg : v.isGiven = true) :
    Comparison.equals.holds v v .null = .ok true := by
  cases v with
  | null => nomatch hg
  | bool b => cases b <;> rfl
  | int n =>
    simp [holds, holdsOfNumber, holdsOfNumbers, isNumber, Value.numeric?, isNaN, distance,
      compare_zero_tolerance, pure, bind, Except.pure, Except.bind]
  | float x =>
    have hn := Number.isNaN_of_isFinite hg
    have hd := Number.abs_sub_self hg
    simp [-Float.isNaN_eq_decide_eq_nan, holds, holdsOfNumber, holdsOfNumbers, isNumber,
      Value.numeric?, isNaN, hn, distance, hd, compare_floatZero_tolerance, pure, bind,
      Except.pure, Except.bind]
  | str s => simp [holds, holdsOfText, isNumber, Pattern.accepts_self, pure, Except.pure]
  | list vs => nomatch hs
  | map es => nomatch hs

theorem Element.WellFormed.isScalar_of_memberOf {e : Element} (h : e.WellFormed) {set name : String}
    {q : PropertyValue} (hq : memberOf e.properties set name = some q) :
    q.value.isScalar = true := by
  obtain ⟨members, hset, hname⟩ := h.properties.memberOf_eq_some.mp hq
  exact h.scalar _ hset _ hname

end Values

theorem CommonValues.count_valuesOf {ix : Index} {set name : String} {listed : List (Value × Nat)}
    (h : CommonValues ((ix.valuesOf Element.properties set name).map (·.value)) listed) :
    ∀ v ∈ listed, v.2 = ix.records.countP fun e => (memberOf e.properties set name).any fun q =>
      Json.text none q.value == Json.text none v.1 := by
  intro v hv
  rw [h.count_eq v hv, List.countP_map, Index.valuesOf, List.countP_filterMap]
  refine List.countP_congr fun e _ => ?_
  cases memberOf e.properties set name <;> simp

namespace Index

variable {ix : Index}

theorem holds_type_of_typeName (ix : Option Index) (e : Element) :
    (Condition.type ⟨.one e.typeName, false, none⟩).holds ix e = .ok true := by
  simp [Condition.holds, TypeTest.holds, TypeTest.typeHolds, TypeTest.predefinedHolds,
    TypeNames.toList, Pattern.accepts_self, pure, Except.pure]

theorem holds_spatial_of_storey (ix : Option Index) {e : Element} {name : String} (hne : name ≠ "")
    (h : e.location.storey = some name) :
    (Condition.spatial ⟨.storey, some name, none⟩).holds ix e = .ok true := by
  simp [Condition.holds, SpatialTest.holds, Location.at, h, hne, Pattern.accepts_self, pure,
    Except.pure]

theorem holds_material_of_name (ix : Option Index) {e : Element} {m : ElementMaterial}
    (h : e.material = some m) :
    (Condition.material ⟨some m.name, none, none⟩).holds ix e = .ok true := by
  simp [Condition.holds, MaterialTest.holds, h, Pattern.accepts_self, pure, Except.pure]

theorem holds_property_of_memberOf (ix : Option Index) {e : Element} (he : e.WellFormed)
    {set name : String} (hset : Pattern.hasWildcard set = false) {q : PropertyValue}
    (hq : memberOf e.properties set name = some q) (hg : q.value.isGiven = true) :
    (Condition.property ⟨set, name, .equals, q.value, none⟩).holds ix e = .ok true := by
  rw [Condition.holds, PropertyTest.holds, Element.property?_of_hasWildcard hset, hq]
  exact Comparison.equals_self (he.isScalar_of_memberOf hq) hg

/-- A listed value selects the records that have it: no other value has its text. -/
theorem selects_value (h : ix.WellFormed) {s : PropertySetSummary} (hs : s.Exact ix)
    (hset : Pattern.hasWildcard s.name = false) {p : PropertySummary} (hp : p ∈ s.properties)
    {v : Value × Nat} (hv : v ∈ p.values) (hg : v.1.isGiven = true) :
    Selects ix (.property ⟨s.name, p.name, .equals, v.1, none⟩)
      (fun e => (memberOf e.properties s.name p.name).any fun q =>
        Json.text none q.value == Json.text none v.1) v.2 := by
  have hvalues := (hs.properties p hp).values
  have hscalar : v.1.isScalar = true := by
    obtain ⟨q, hq, hqv⟩ := List.mem_map.mp (hvalues.subset v hv)
    obtain ⟨e, he, hmember⟩ := mem_valuesOf.mp hq
    exact hqv ▸ (h e he).isScalar_of_memberOf hmember
  refine .of_holds (hvalues.count_valuesOf v hv) fun e he hc => ?_
  obtain ⟨q, hq, htext⟩ := (Option.any_eq_true _ _).mp hc
  have hqv : q.value = v.1 :=
    Json.text_inj ((h e he).isScalar_of_memberOf hq) hscalar (beq_iff_eq.mp htext)
  have hfound := holds_property_of_memberOf (some ix) (h e he) hset hq (hqv ▸ hg)
  rwa [hqv] at hfound

theorem storeys_subset_of_mem_buildingSummaries : ∀ b ∈ ix.buildingSummaries,
    b.storeys ⊆ ix.storeySummaries := by
  intro b hb
  obtain ⟨p, -, rfl⟩ := List.mem_map.mp hb
  exact List.filter_subset_self _

theorem toSummary_selectable (ix : Index) (h : ix.WellFormed) : ix.toSummary.Selectable ix where
  types t ht := .of_holds (ix.types_exact t ht).count_eq fun e _ hc =>
    beq_iff_eq.mp hc ▸ holds_type_of_typeName (some ix) e
  storeys t ht := by
    refine .of_holds (elementCount_of_mem_storeySummaries t ht) fun e _ hc => ?_
    obtain ⟨_, -, hname⟩ := exists_of_mem_storeySummaries t ht
    exact holds_spatial_of_storey (some ix) (mem_givenName.mp hname).2 (beq_iff_eq.mp hc)
  storeysOfBuildings := storeys_subset_of_mem_buildingSummaries
  materials m hm := by
    refine .of_holds (elementCount_of_mem_materialSummaries m hm) fun e _ hc => ?_
    obtain ⟨n, hn, hname⟩ := (Option.any_eq_true _ _).mp hc
    exact beq_iff_eq.mp hname ▸ holds_material_of_name (some ix) hn
  values s hs hset _ hp _ hv hg := selects_value h (propertySets_exact h s hs) hset hp hv hg

/-- A wall whose names and whose mark are patterns. -/
def starredWall : Element :=
  { Element.plain 1 "IfcWall" with
    location := { storey := some "Level *" }
    material := some ⟨"Type *?", .single, [], none⟩
    properties := [("Pset_Common", [("Mark", ⟨.text, .str "A?", none⟩)])] }

def starred : Index where
  elements := [(1, starredWall), (2, Element.plain 2 "IfcDoor")]
  hierarchy := ⟨[]⟩

theorem toSummary_selectable_starred :
    starred.WellFormed ∧
      (∃ m ∈ starred.toSummary.materials, m.name = "Type *?" ∧ m.elementCount = 1) ∧
      (Condition.material ⟨some "Type *?", none, none⟩).holds (some starred) starredWall =
        .ok true := by
  have hw : starred.WellFormed := by decide
  have hselect := toSummary_selectable starred hw
  have hnames : starred.toSummary.materials.map (·.name) = ["Type *?"] := by decide +kernel
  obtain ⟨m, hm, hname⟩ := List.mem_map.mp (hnames ▸ List.mem_cons_self)
  have hfound := hselect.materials m hm
  rw [hname] at hfound
  exact ⟨hw, ⟨m, hm, hname, hfound.count_eq.trans (by decide)⟩,
    hfound.holds starredWall List.mem_cons_self (by decide)⟩

end Index

end BuildingQuery
