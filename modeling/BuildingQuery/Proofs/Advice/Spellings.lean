import BuildingQuery.Condition.Evaluate
import BuildingQuery.Proofs.Advice.Addresses
import BuildingQuery.Proofs.Index.Coherence

/-! What the warnings of unknown names mean for the evaluation. Names are looked up as they are
written, while the evaluation compares those of quantity sets and of systems without regard to case;
so what the index has under another spelling of a name is still found. -/

namespace BuildingQuery

/-- Another spelling of a name that differs in case only. -/
def Recased (name other : String) : Prop := other ≠ name ∧ Text.lower other = Text.lower name

section Names

variable {known : List String} {name other : String}

theorem Absent.hasWildcard (h : Absent known name) : Pattern.hasWildcard name = false := by
  obtain ⟨-, hplain, -⟩ := h
  simpa [Pattern.hasWildcard, Pattern.isWildcard] using hplain

/-- A name that an index does not know accepts just the other spellings of it. -/
theorem Absent.accepts_iff (h : Absent known name) (ho : other ∈ known) :
    Pattern.accepts name other = true ↔ Recased name other := by
  have hne : other ≠ name := fun heq => h.2.2 (heq ▸ ho)
  rw [Pattern.accepts, h.hasWildcard, if_neg Bool.false_ne_true, beq_iff_eq, Recased]
  exact (and_iff_right hne).symm

theorem Absent.ne_star (h : Absent known name) : name ≠ "*" := by
  rintro rfl
  have hstar := h.hasWildcard
  revert hstar
  decide

end Names

section Evaluation

variable {known : List String} {name : String}

theorem Element.property?_of_absent (h : Absent known name) {e : Element}
    (he : name ∉ e.properties.keys) (p : String) : e.property? name p = none := by
  have hexact : (name == "*" || Pattern.hasWildcard name) = false := by
    simp [h.ne_star, h.hasWildcard]
  rw [property?, hexact, if_neg Bool.false_ne_true, OrderedMap.get?_of_not_mem he]
  rfl

theorem PropertyTest.holds_of_absent {t : PropertyTest} (h : Absent known t.set) {e : Element}
    (he : t.set ∉ e.properties.keys) : t.holds e = t.holds { e with properties := [] } := by
  have hnone := Element.property?_of_absent h he t.name
  have hbare := Element.property?_of_absent h (e := { e with properties := [] })
    List.not_mem_nil t.name
  rw [holds, holds, hnone, hbare]

theorem Element.quantity?_of_none_accepted (hn : name ≠ "*") {e : Element}
    (he : ∀ q ∈ e.quantities.keys, Pattern.accepts name q = false) (p : String) :
    e.quantity? (some name) p = none := by
  rw [quantity?, List.findSome?_eq_none_iff]
  intro s hs
  have hs : Pattern.accepts name s.1 = false := he s.1 (List.mem_map_of_mem hs)
  simp [meansAll, hn, hs]

theorem QuantityTest.holds_of_none_accepted {t : QuantityTest} (ht : t.set = some name)
    (hn : name ≠ "*") {e : Element}
    (he : ∀ q ∈ e.quantities.keys, Pattern.accepts name q = false) :
    t.holds e = t.holds { e with quantities := [] } := by
  have hnone := Element.quantity?_of_none_accepted hn he t.name
  have hbare := Element.quantity?_of_none_accepted hn (e := { e with quantities := [] })
    (by simp [OrderedMap.keys]) t.name
  rw [holds, holds, ht, hnone, hbare]

theorem ClassificationTest.holds_of_none_accepted {t : ClassificationTest}
    (ht : t.system = some name) (hn : name ≠ "*") {e : Element}
    (he : ∀ c ∈ e.classifications, Pattern.accepts name c.system = false) :
    t.holds e = false := by
  rw [holds, ht, List.any_eq_false]
  intro c hc
  simp [Element.meansAll, hn, acceptedBy, Pattern.acceptsOpt, he c hc]

end Evaluation

/-- What the evaluation finds under a name that an index is said not to know. There is no property
set of that name; quantity sets and systems are those of another spelling, and where a record has
none of them, it is to the condition as if it had no sets or systems at all. -/
def Condition.FindsRecased (ix : Index) : Condition → Prop
  | .property t => ∀ e ∈ ix.records,
      t.set ∉ e.properties.keys ∧ t.holds e = t.holds { e with properties := [] }
  | .quantity t => ∀ name ∈ t.set, ∀ e ∈ ix.records,
      (∀ q ∈ e.quantities.keys, Pattern.accepts name q = true ↔ Recased name q) ∧
        ((∀ q ∈ e.quantities.keys, ¬ Recased name q) →
          t.holds e = t.holds { e with quantities := [] })
  | .classification t => ∀ name ∈ t.system, ∀ e ∈ ix.records,
      (∀ c ∈ e.classifications, Pattern.accepts name c.system = true ↔ Recased name c.system) ∧
        ((∀ c ∈ e.classifications, ¬ Recased name c.system) → t.holds e = false)
  | _ => True

namespace Advice

theorem findsRecased_of_offends {ix : Index} (hix : ix.Coherent) {c : Condition}
    (h : c.Offends ix) : c.FindsRecased ix := by
  cases c with
  | property t =>
    intro e he
    have hset : t.set ∉ e.properties.keys :=
      fun hs => h.2.2 ((hix.propertySets t.set).mpr ⟨e, he, hs⟩)
    exact ⟨hset, PropertyTest.holds_of_absent h hset⟩
  | quantity t =>
    obtain ⟨name, hname, habsent⟩ := h
    intro name' hname' e he
    obtain rfl : name = name' := Option.some.inj (hname.symm.trans hname')
    have hfound : ∀ q ∈ e.quantities.keys, Pattern.accepts name q = true ↔ Recased name q :=
      fun q hq => habsent.accepts_iff ((hix.quantitySets q).mpr ⟨e, he, hq⟩)
    refine ⟨hfound, fun hnone => QuantityTest.holds_of_none_accepted hname habsent.ne_star ?_⟩
    exact fun q hq => Bool.eq_false_iff.mpr fun hq' => hnone q hq ((hfound q hq).mp hq')
  | classification t =>
    obtain ⟨name, hname, habsent⟩ := h
    intro name' hname' e he
    obtain rfl : name = name' := Option.some.inj (hname.symm.trans hname')
    have hfound : ∀ c ∈ e.classifications,
        Pattern.accepts name c.system = true ↔ Recased name c.system :=
      fun c hc => habsent.accepts_iff ((hix.classificationSystems c.system).mpr ⟨e, he, c, hc, rfl⟩)
    refine ⟨hfound, fun hnone => ClassificationTest.holds_of_none_accepted hname habsent.ne_star ?_⟩
    exact fun c hc => Bool.eq_false_iff.mpr fun hc' => hnone c hc ((hfound c hc).mp hc')
  | _ => trivial

/-- Where a rule is warned of a name, no record has a property set of that name, and of quantity sets
and systems a record has only such as are spelled in another case. -/
theorem warned_findsRecased (i : Input) (h : Hierarchy) (hn : i.graph.entities.keys.Nodup)
    (r : Rule) :
    ∀ w ∈ (ofRule (i.index h) r).warnings,
      ∃ n ∈ r.nodes, n.WarnedBy r w ∧ n.condition.FindsRecased (i.index h) := by
  obtain ⟨-, -, hcoherent⟩ := i.index_coherent h hn
  intro w hw
  obtain ⟨n, hmem, hwarned⟩ := exists_of_forall₂ (warnedBy_warnings (i.index h) r) w hw
  obtain ⟨hnode, hoffends⟩ := List.mem_filter.mp hmem
  exact ⟨n, hnode, hwarned, findsRecased_of_offends hcoherent (by simpa using hoffends)⟩

/-- A wall with a quantity set and a classification. -/
def classifiedWall : Input where
  graph := {
    entities := [(4, ⟨4, "IfcWall", .positional []⟩)]
    idsByType := [] }
  quantitySets := some [(24, ⟨"Qto_WallBaseQuantities", [("Length", 5)]⟩)]
  classifications := some {
    systems := [(40, ⟨"Uniclass 2015", none⟩)]
    references := [(41, ⟨"EF_25_10", none, some 40⟩)]
    byElement := [(4, [41])] }
  relationships := some [⟨"IfcRelDefinesByProperties", 24, [4]⟩]

/-- A rule that names in lower case what the wall has. -/
def lowerCaseRule : Rule where
  id := "lower"
  name := "Lower case"
  description := none
  conditions := [
    .quantity ⟨some "qto_wallbasequantities", "Length", .greaterThan, 0, none⟩,
    .group .all [
      .classification ⟨some "uniclass 2015", none, none⟩,
      .property ⟨"Pset_WallCommon", "IsExternal", .exists, .null, none⟩]]
  mode := .any

theorem warned_findsRecased_lowerCase :
    classifiedWall.graph.entities.keys.Nodup ∧
      ((ofRule (classifiedWall.index Input.wallsAndDoors) lowerCaseRule).warnings.map (·.path)) =
        ["conditions[0].quantitySet", "conditions[1].conditions[0].system",
          "conditions[1].conditions[1].propertySet"] ∧
      ∀ w ∈ (ofRule (classifiedWall.index Input.wallsAndDoors) lowerCaseRule).warnings,
        ∃ n ∈ lowerCaseRule.nodes, n.WarnedBy lowerCaseRule w ∧
          n.condition.FindsRecased (classifiedWall.index Input.wallsAndDoors) := by
  have hn : classifiedWall.graph.entities.keys.Nodup := by decide
  exact ⟨hn, by decide +kernel, warned_findsRecased classifiedWall Input.wallsAndDoors hn lowerCaseRule⟩

/-- The rule is warned of names under which the evaluation finds a quantity and a classification. -/
theorem lowerCase_warned_and_found :
    ((ofRule (classifiedWall.index Input.wallsAndDoors) lowerCaseRule).warnings.map
        fun w => (w.path, w.message)) = [
      ("conditions[0].quantitySet", "Quantity set \"qto_wallbasequantities\" not found in model"),
      ("conditions[1].conditions[0].system",
        "Classification system \"uniclass 2015\" not found in model"),
      ("conditions[1].conditions[1].propertySet",
        "Property set \"Pset_WallCommon\" not found in model")] ∧
      ∃ e ∈ (classifiedWall.index Input.wallsAndDoors).records,
        (e.quantity? (some "qto_wallbasequantities") "Length").isSome = true ∧
          ClassificationTest.holds ⟨some "uniclass 2015", none, none⟩ e = true := by
  have hfound : ((classifiedWall.index Input.wallsAndDoors).records.any fun e =>
      (e.quantity? (some "qto_wallbasequantities") "Length").isSome &&
        ClassificationTest.holds ⟨some "uniclass 2015", none, none⟩ e) = true := by
    decide +kernel
  obtain ⟨e, he, hboth⟩ := List.any_eq_true.mp hfound
  exact ⟨by decide +kernel, e, he, Bool.and_eq_true_iff.mp hboth⟩

end Advice

end BuildingQuery
