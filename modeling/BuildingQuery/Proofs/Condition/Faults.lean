import BuildingQuery.Proofs.Comparison.Faults
import BuildingQuery.Proofs.Condition.Typed
import BuildingQuery.Proofs.First

/-! When testing a condition ends in a fault. Only property and attribute tests fail, and a tree
fails when a leaf that fails is reached: the members before it have not decided the group. -/

namespace BuildingQuery

namespace Condition

/-- The faults of testing a leaf on an element. -/
inductive LeafFaults (e : Element) : Condition → Fault → Prop where
  | property {t p f} (hp : e.property? t.set t.name = some p)
      (hf : t.comparison.Faults p.value t.value f) : LeafFaults e (.property t) f
  | attributeText {t f} (hop : t.comparison = .matches) (hs : (e.textOf t.subject).isSome = true)
      (hf : Regex.Refuses t.value f) : LeafFaults e (.attributeText t) f

/-- The faults of testing a tree: that of a leaf, or that of a member before which no member has
decided the group. -/
inductive Faults (ix : Option Index) (e : Element) : Condition → Fault → Prop where
  | leaf {c f} (h : LeafFaults e c f) : Faults ix e c f
  | member {k pre c post f} (hpre : ∀ d ∈ pre, d.holds ix e = .ok k.undecided)
      (h : Faults ix e c f) : Faults ix e (.group k (pre ++ c :: post)) f

variable {ix : Option Index} {e : Element} {f : Fault}

theorem faults_of_isLeaf {c : Condition} (h : c.isLeaf = true) :
    Faults ix e c f ↔ LeafFaults e c f := by
  constructor
  · intro hf
    cases hf with
    | leaf hf => exact hf
    | member => simp [isLeaf] at h
  · exact .leaf

theorem faults_group {k : GroupKind} {cs : List Condition} :
    Faults ix e (.group k cs) f ↔
      FirstAt (fun d => d.holds ix e = .ok k.undecided) (fun c => Faults ix e c f) cs := by
  constructor
  · intro hf
    cases hf with
    | leaf hf => nomatch hf
    | member hpre h => exact ⟨_, _, _, rfl, hpre, h⟩
  · rintro ⟨pre, c, post, rfl, hpre, h⟩
    exact .member hpre h

end Condition

theorem TypeTest.holds_ok {t : TypeTest} (ht : (Condition.type t).hasTypedFields = true)
    (e : Element) : ∃ b, t.holds e = .ok b := by
  have hp : ∃ b, t.predefinedHolds e = .ok b := by
    obtain ⟨names, subtypes, predefined⟩ := t
    cases predefined with
    | none => exact ⟨true, rfl⟩
    | some v =>
      cases v with
      | str s => exact ⟨_, rfl⟩
      | _ => simp [Condition.hasTypedFields] at ht
  by_cases hn : t.names.toList.any (t.typeHolds e) = true
  · simpa only [holds, hn, if_true] using hp
  · exact ⟨false, by simp [holds, hn, pure, Except.pure]⟩

theorem PropertyTest.holds_error_iff {t : PropertyTest} {e : Element} {f : Fault} :
    t.holds e = .error f ↔ Condition.LeafFaults e (.property t) f := by
  constructor
  · intro h
    rw [holds] at h
    cases hp : e.property? t.set t.name with
    | none =>
      exfalso
      cases hop : t.comparison <;> simp [hp, hop, pure, Except.pure] at h
    | some p =>
      have hh : t.comparison.holds p.value t.value (floatValue t.upper) = .error f := by
        cases hop : t.comparison <;> simp [hp, hop, pure, Except.pure] at h <;> exact h
      exact .property hp (Comparison.holds_error_iff.mp hh)
  · intro h
    cases h with
    | property hp hf =>
      have he : t.comparison ≠ .exists ∧ t.comparison ≠ .notExists := by
        constructor <;> intro hop <;> simpa [hop, Comparison.isEquality] using hf.operator
      rw [holds, hp]
      cases hop : t.comparison <;> simp_all [Comparison.holds_error_iff]

theorem holdsOfFloats_ok (op : Comparison) (x y : Float) (upper : Option Float) :
    ∃ b, op.holdsOfNumbers (.float x) (.float y) (floatValue upper) = .ok b := by
  cases h : op.holdsOfNumbers (.float x) (.float y) (floatValue upper) with
  | ok b => exact ⟨b, rfl⟩
  | error f =>
    obtain ⟨-, -, -, hc⟩ := Comparison.holdsOfNumbers_error_iff.mp h
    nomatch hc

theorem ElevationTest.holds_ok (t : ElevationTest) (elevation : Option Float) :
    ∃ b, t.holds elevation = .ok b := by
  cases elevation with
  | none => exact ⟨false, rfl⟩
  | some x => exact holdsOfFloats_ok _ _ _ _

theorem SpatialTest.holds_ok (t : SpatialTest) (e : Element) : ∃ b, t.holds e = .ok b := by
  simp only [holds]
  split
  · exact ⟨false, rfl⟩
  · split
    · exact ElevationTest.holds_ok _ _
    · exact ⟨_, rfl⟩

theorem QuantityTest.holds_ok (t : QuantityTest) (e : Element) : ∃ b, t.holds e = .ok b := by
  rw [holds]
  cases e.quantity? t.set t.name with
  | none => exact ⟨_, rfl⟩
  | some x => exact holdsOfFloats_ok _ _ _ _

namespace Condition

variable {ix : Option Index} {e : Element} {f : Fault}

theorem leaf_holds_error_iff {c : Condition} (hl : c.isLeaf = true)
    (ht : c.hasTypedFields = true) : c.holds ix e = .error f ↔ LeafFaults e c f := by
  -- All kinds but two never fail and have no fault of their own.
  have never (hc : ∃ b, c.holds ix e = .ok b) (hf : ¬ LeafFaults e c f) :
      c.holds ix e = .error f ↔ LeafFaults e c f := by
    obtain ⟨b, hb⟩ := hc
    simp [hb, hf]
  cases c with
  | property t => rw [holds, PropertyTest.holds_error_iff]
  | attributeText t =>
    rw [holds, AttributeTest.holds, Comparison.holdsOfText_error_iff]
    constructor
    · rintro ⟨hop, hs, hf⟩
      refine .attributeText ?_ hs hf
      cases hc : t.comparison <;> simp_all [TextComparison.toComparison]
    · intro h
      cases h with
      | attributeText hop hs hf => exact ⟨by rw [hop]; rfl, hs, hf⟩
  | type t => exact never (by simpa only [holds] using t.holds_ok ht e) (by rintro ⟨⟩)
  | spatial t => exact never (by simpa only [holds] using t.holds_ok e) (by rintro ⟨⟩)
  | quantity t => exact never (by simpa only [holds] using t.holds_ok e) (by rintro ⟨⟩)
  | group k cs => simp [isLeaf] at hl
  | _ => exact never ⟨_, by simp only [holds]; rfl⟩ (by rintro ⟨⟩)

/-- Members that are tried until one of them decides fail when a member before which none decides
fails. -/
theorem Tries.error_iff {b : Bool} {go : List Condition → Except Fault Bool}
    (h : Tries ix e b go) (cs : List Condition) :
    go cs = .error f ↔
      FirstAt (fun d => d.holds ix e = .ok b) (fun c => c.holds ix e = .error f) cs := by
  induction cs with
  | nil => simp [h.nil, not_firstAt_nil]
  | cons c cs ih =>
    rw [firstAt_cons, h.cons]
    cases hc : c.holds ix e with
    | error g => simp [Except.bind]
    | ok x =>
      by_cases hx : x = b
      · simp [Except.bind, hx, ih]
      · simp [Except.bind, hx]

theorem group_holds_error_iff {k : GroupKind} {cs : List Condition} :
    (group k cs).holds ix e = .error f ↔
      FirstAt (fun d => d.holds ix e = .ok k.undecided) (fun c => c.holds ix e = .error f) cs := by
  cases k with
  | all =>
    rw [holds]
    exact allHold_tries.error_iff cs
  | any =>
    rw [holds]
    exact anyHolds_tries.error_iff cs
  | none =>
    rw [holds, Comparison.bind_pure_error_iff]
    exact anyHolds_tries.error_iff cs

/-- Testing a tree fails exactly when a leaf that fails is reached. -/
theorem holds_error_iff {c : Condition} (ht : c.Typed) :
    c.holds ix e = .error f ↔ c.Faults ix e f := by
  induction c using tree_induction with
  | leaf c hc =>
    rw [faults_of_isLeaf hc]
    exact leaf_holds_error_iff hc ((typed_of_isLeaf hc).mp ht)
  | group k cs ih =>
    rw [group_holds_error_iff, faults_group]
    exact firstAt_congr (fun _ _ => Iff.rfl) fun c hc => ih c hc (typed_group.mp ht c hc)

end Condition

end BuildingQuery
