import BuildingQuery.Advice
import BuildingQuery.Proofs.Condition.Nodes
import BuildingQuery.Proofs.Condition.RoundTrip
import BuildingQuery.Proofs.Value.Path
import Mathlib.Data.List.Forall2

/-! The warnings on a rule: one for each condition inside it that is at fault, in the order of the
conditions, under a path that leads to the fault in the document of the rule. -/

namespace BuildingQuery

/-- A name that is no pattern and not among the known ones. -/
def Absent (known : List String) (name : String) : Prop :=
  name ≠ "" ∧ (∀ c ∈ name.toList, c ≠ '*' ∧ c ≠ '?') ∧ name ∉ known

instance (known : List String) : DecidablePred (Absent known) := fun _ =>
  inferInstanceAs (Decidable (_ ∧ _ ∧ _))

namespace Condition

/-- Whether a condition by itself is at fault, whatever stands inside it. -/
def Offends (ix : Index) : Condition → Prop
  | property t => Absent ix.propertySets t.set
  | quantity t => ∃ s ∈ t.set, Absent ix.quantitySets s
  | classification t => ∃ s ∈ t.system, Absent ix.classificationSystems s
  | group _ cs => cs = []
  | unknown _ _ => True
  | _ => False

instance (ix : Index) : DecidablePred (Offends ix) := fun c =>
  match c with
  | property _ => inferInstanceAs (Decidable (Absent _ _))
  | quantity t => inferInstanceAs (Decidable (∃ s ∈ t.set, Absent _ s))
  | classification t => inferInstanceAs (Decidable (∃ s ∈ t.system, Absent _ s))
  | group _ [] => isTrue rfl
  | group _ (_ :: _) => isFalse (List.cons_ne_nil _ _)
  | unknown _ _ => isTrue trivial
  | type _ | spatial _ | material _ | attributeText _ | relation _ => isFalse id

/-- The field of its document where a condition is at fault, with the value there. -/
def offending? : Condition → Option (String × Value)
  | property t => some ("propertySet", .str t.set)
  | quantity t => t.set.map fun s => ("quantitySet", .str s)
  | classification t => t.system.map fun s => ("system", .str s)
  | group _ cs => some ("conditions", .list (documents .dropped cs))
  | unknown kind _ => some ("type", .str kind)
  | _ => none

end Condition

/-- The steps to a place from the document around it. -/
def stepsTo (place : List Nat) : List Step :=
  place.flatMap fun (i : Nat) => [.name "conditions", .place i]

/-- The warning has a path that leads to the node's fault in the document of the rule. -/
structure Node.WarnedBy (r : Rule) (n : Node) (w : Remark) : Prop where
  severity : w.severity = .warning
  node : r.document.follow? (stepsTo n.place) = some (n.condition.document .dropped)
  field : ∃ f ∈ n.condition.offending?,
    Step.readPath? w.path = some (stepsTo n.place ++ [.name f.1]) ∧
      r.document.follow? (stepsTo n.place ++ [.name f.1]) = some f.2

namespace Advice

section Names

variable {path kind : String} {known : List String} {name : Option String}

theorem isConcrete_and_not_contains_iff {s : String} :
    (isConcrete s && !known.contains s) = true ↔ Absent known s := by
  simp [isConcrete, Absent, Pattern.hasWildcard, Pattern.isWildcard, and_assoc]

theorem unknownName_of_absent {s : String} (h : Absent known s) :
    unknownName path kind known (some s) =
      [⟨.warning, path, s!"{kind} \"{s}\" not found in model", suggestion s known⟩] := by
  rw [unknownName]
  exact if_pos (isConcrete_and_not_contains_iff.mpr h)

theorem unknownName_eq_nil (h : ∀ s ∈ name, ¬ Absent known s) :
    unknownName path kind known name = [] := by
  cases name with
  | none => rfl
  | some s =>
    rw [unknownName]
    exact if_neg fun hs => h s rfl (isConcrete_and_not_contains_iff.mp hs)

end Names

section Paths

/-- The path to a place from the path of the condition around it. -/
def pathTo (path : String) : (place : List Nat) → String
  | [] => path
  | i :: place => pathTo (path ++ ".conditions" ++ "[" ++ toString i ++ "]") place

def rulePath : (place : List Nat) → String
  | [] => ""
  | i :: place => pathTo ("conditions" ++ "[" ++ toString i ++ "]") place

/-- The warning is on the node, under the path that its place gives. -/
def On (address : List Nat → String) (n : Node) (w : Remark) : Prop :=
  w.severity = .warning ∧ ∃ f ∈ n.condition.offending?, w.path = address n.place ++ ("." ++ f.1)

end Paths

section Order

variable {ix : Index}

theorem on_unknownName {path field kind : String} {known : List String} {name : Option String}
    {c : Condition} (hc : c.offending? = name.map fun s => (field, .str s))
    (ho : c.Offends ix ↔ ∃ s ∈ name, Absent known s) :
    List.Forall₂ (On (pathTo path)) ([⟨[], c⟩].filter fun n => n.condition.Offends ix)
      (unknownName (path ++ ("." ++ field)) kind known name) := by
  by_cases h : c.Offends ix
  · obtain ⟨s, hs, habsent⟩ := ho.mp h
    obtain rfl : name = some s := hs
    have hon : On (pathTo path) ⟨[], c⟩ ⟨.warning, path ++ ("." ++ field),
        s!"{kind} \"{s}\" not found in model", suggestion s known⟩ :=
      ⟨rfl, (field, .str s), hc, rfl⟩
    rw [unknownName_of_absent habsent, List.filter_cons_of_pos (by simpa using h)]
    exact .cons hon .nil
  · have hnot : ∀ s ∈ name, ¬ Absent known s := fun s hs habsent => h (ho.mpr ⟨s, hs, habsent⟩)
    rw [unknownName_eq_nil hnot, List.filter_cons_of_neg (by simpa using h)]
    exact .nil

theorem onCondition_leaf {c : Condition} (hc : c.isLeaf = true) (path : String) :
    List.Forall₂ (On (pathTo path)) (c.nodes.filter fun n => n.condition.Offends ix)
      (onCondition ix path c) := by
  rw [Condition.nodes_of_isLeaf hc]
  cases c with
  | property t =>
    have ho : (Condition.property t).Offends ix ↔ ∃ s ∈ some t.set, Absent ix.propertySets s := by
      simp [Condition.Offends]
    exact on_unknownName rfl ho
  | quantity t => exact on_unknownName (c := .quantity t) rfl Iff.rfl
  | classification t => exact on_unknownName (c := .classification t) rfl Iff.rfl
  | unknown kind fields =>
    have hon : On (pathTo path) ⟨[], .unknown kind fields⟩ ⟨.warning, path ++ ("." ++ "type"),
        s!"Unknown condition type \"{kind}\" never matches", ""⟩ :=
      ⟨rfl, ("type", .str kind), rfl, rfl⟩
    exact .cons hon .nil
  | group k cs => simp [Condition.isLeaf] at hc
  | _ => exact .nil

theorem onConditions_on {cs : List Condition} {address : List Nat → String} {path : String}
    (h : ∀ c ∈ cs, ∀ path, List.Forall₂ (On (pathTo path))
      (c.nodes.filter fun n => n.condition.Offends ix) (onCondition ix path c))
    (ha : ∀ i place, address (i :: place) = pathTo (path ++ "[" ++ toString i ++ "]") place)
    (i : Nat) :
    List.Forall₂ (On address) ((Condition.nodesFrom i cs).filter fun n => n.condition.Offends ix)
      (onConditions ix path i cs) := by
  induction cs generalizing i with
  | nil => exact .nil
  | cons c cs ih =>
    obtain ⟨hc, hcs⟩ := List.forall_mem_cons.mp h
    have hunder : ∀ n w, On (pathTo (path ++ "[" ++ toString i ++ "]")) n w →
        On address (n.under i) w := by
      rintro n w ⟨hw, f, hf, hpath⟩
      have hplace : address (n.under i).place = _ := ha i n.place
      exact ⟨hw, f, hf, by rw [hpath, hplace]⟩
    rw [Condition.nodesFrom, onConditions, List.filter_append, List.filter_map]
    refine List.rel_append ?_ (ih hcs (i + 1))
    exact List.forall₂_map_left_iff.mpr ((hc _).imp hunder)

theorem onCondition_on (c : Condition) (path : String) :
    List.Forall₂ (On (pathTo path)) (c.nodes.filter fun n => n.condition.Offends ix)
      (onCondition ix path c) := by
  induction c using Condition.tree_induction generalizing path with
  | leaf c hc => exact onCondition_leaf hc path
  | group k cs ih =>
    have hmembers : List.Forall₂ (On (pathTo path))
        ((Condition.nodesFrom 0 cs).filter fun n => n.condition.Offends ix)
        (onConditions ix (path ++ ".conditions") 0 cs) := onConditions_on ih (fun _ _ => rfl) 0
    rw [Condition.nodes, onCondition]
    by_cases hcs : cs = []
    · subst hcs
      exact .cons ⟨rfl, ("conditions", .list []), rfl, rfl⟩ .nil
    · have hne : cs.isEmpty = false := by simpa using hcs
      have ho : ¬ (Condition.group k cs).Offends ix := hcs
      rw [List.filter_cons_of_neg (by simpa using ho)]
      simpa [hne] using hmembers

end Order

section Reading

def wordOf (i : Nat) : List Char := Step.memberWord "conditions".toList i

theorem ofWord?_wordOf (i : Nat) :
    Step.ofWord? (wordOf i) = some [.name "conditions", .place i] := by
  have hfield : '[' ∉ "conditions".toList := by decide
  have hread := Step.ofWord?_memberWord hfield i
  rwa [String.ofList_toList] at hread

theorem not_mem_wordOf (i : Nat) : '.' ∉ wordOf i := by
  have hfield : '.' ∉ "conditions".toList := by decide
  exact Step.not_mem_memberWord hfield i

theorem toList_pathTo (path : String) (place : List Nat) :
    (pathTo path place).toList = path.toList ++ place.flatMap fun i => '.' :: wordOf i := by
  induction place generalizing path with
  | nil => rw [pathTo, List.flatMap_nil, List.append_nil]
  | cons i place ih =>
    have hdot : ".conditions".toList = '.' :: "conditions".toList := rfl
    have hopen : "[".toList = ['['] := rfl
    have hclose : "]".toList = [']'] := rfl
    rw [pathTo, ih, List.flatMap_cons, wordOf, Step.memberWord, Number.digits]
    simp only [String.toList_append, hdot, hopen, hclose, List.append_assoc, List.cons_append,
      List.nil_append]

theorem readWords?_place {field : List Char} (hp : '.' ∉ field) (hb : '[' ∉ field) (i : Nat)
    (place : List Nat) :
    Step.readWords? (wordOf i ++ (place.flatMap fun i => '.' :: wordOf i) ++ '.' :: field) =
      some (stepsTo (i :: place) ++ [.name (String.ofList field)]) := by
  induction place generalizing i with
  | nil =>
    have hfield := Step.readWords?_word hp (Step.ofWord?_field hb)
    have hread := Step.readWords?_cons (not_mem_wordOf i) (ofWord?_wordOf i) hfield
    simpa [stepsTo] using hread
  | cons j place ih =>
    have hread := Step.readWords?_cons (not_mem_wordOf i) (ofWord?_wordOf i) (ih j)
    simpa [stepsTo] using hread

theorem readPath?_rulePath {field : String} (hp : '.' ∉ field.toList) (hb : '[' ∉ field.toList)
    {place : List Nat} (hplace : place ≠ []) :
    Step.readPath? (rulePath place ++ ("." ++ field)) =
      some (stepsTo place ++ [.name field]) := by
  obtain ⟨i, place, rfl⟩ := List.exists_cons_of_ne_nil hplace
  have hread := readWords?_place hp hb i place
  rw [String.ofList_toList] at hread
  have hopen : "[".toList = ['['] := rfl
  have hclose : "]".toList = [']'] := rfl
  have hdot : ".".toList = ['.'] := rfl
  rw [Step.readPath?, ← hread, rulePath, String.toList_append, toList_pathTo]
  simp only [String.toList_append, hdot, hopen, hclose, wordOf, Step.memberWord, Number.digits,
    List.append_assoc, List.cons_append, List.nil_append]

end Reading

section Following

theorem field?_record_dropped (fs : List (String × Value)) (name : String) :
    (NullFields.dropped.record fs).field? name = (fs.filter (!·.2.isNull)).lookup name :=
  get?_writtenFields fs name

theorem follow?_member {v : Value} {cs : List Condition} {c : Condition} {i : Nat}
    (hv : v.field? "conditions" = some (.list (Condition.documents .dropped cs)))
    (hc : cs[i]? = some c) (place : List Nat) :
    v.follow? (stepsTo (i :: place)) = (c.document .dropped).follow? (stepsTo place) := by
  have hi : (Condition.documents .dropped cs)[i]? = some (c.document .dropped) := by
    rw [Condition.documents_eq_map, List.getElem?_map, hc]
    rfl
  rw [stepsTo, List.flatMap_cons, Value.follow?_append, Value.follow?, Value.part?, hv,
    Option.bind_some, Value.follow?, Value.part?_list, hi]
  rfl

theorem follow?_of_at? {c d : Condition} {place : List Nat} (h : c.at? place = some d) :
    (c.document .dropped).follow? (stepsTo place) = some (d.document .dropped) := by
  induction place generalizing c with
  | nil =>
    obtain rfl := Option.some.inj h
    rfl
  | cons i place ih =>
    cases c with
    | group k cs =>
      obtain ⟨m, hm, hd⟩ := Option.bind_eq_some_iff.mp h
      rw [follow?_member rfl hm, ih hd]
    | _ => nomatch h

theorem follow?_of_ruleAt? {r : Rule} {d : Condition} {place : List Nat}
    (h : r.at? place = some d) :
    r.document.follow? (stepsTo place) = some (d.document .dropped) := by
  cases place with
  | nil => nomatch h
  | cons i place =>
    obtain ⟨c, hc, hd⟩ := Option.bind_eq_some_iff.mp h
    have hv : r.document.field? "conditions" =
        some (.list (Condition.documents .dropped r.conditions)) := by
      rw [Rule.document, field?_record_dropped]
      cases r.description <;> rfl
    rw [follow?_member hv hc, follow?_of_at? hd]

theorem field?_of_offending {c : Condition} {f : String × Value} (h : f ∈ c.offending?) :
    f.1 ∈ ["propertySet", "quantitySet", "system", "conditions", "type"] ∧
      (c.document .dropped).field? f.1 = some f.2 := by
  cases c with
  | property t =>
    obtain rfl := Option.some.inj h
    exact ⟨by simp, rfl⟩
  | quantity t =>
    obtain ⟨s, hs, rfl⟩ := Option.map_eq_some_iff.mp h
    refine ⟨by simp, ?_⟩
    refine (field?_record_dropped ((Condition.quantity t).fields .dropped) "quantitySet").trans ?_
    rw [Condition.fields, hs]
    rfl
  | classification t =>
    obtain ⟨s, hs, rfl⟩ := Option.map_eq_some_iff.mp h
    refine ⟨by simp, ?_⟩
    refine (field?_record_dropped ((Condition.classification t).fields .dropped) "system").trans ?_
    rw [Condition.fields, hs]
    rfl
  | group k cs =>
    obtain rfl := Option.some.inj h
    exact ⟨by simp, rfl⟩
  | unknown kind fields =>
    obtain rfl := Option.some.inj h
    exact ⟨by simp, rfl⟩
  | _ => simp [Condition.offending?] at h

end Following

theorem warnedBy_warnings (ix : Index) (r : Rule) :
    List.Forall₂ (Node.WarnedBy r) (r.nodes.filter fun n => n.condition.Offends ix)
      (ofRule ix r).warnings := by
  have hon : List.Forall₂ (On rulePath) (r.nodes.filter fun n => n.condition.Offends ix)
      (ofRule ix r).warnings :=
    onConditions_on (fun c _ => onCondition_on c) (fun _ _ => rfl) 0
  have hat : ∀ n ∈ r.nodes.filter fun n => n.condition.Offends ix,
      r.at? n.place = some n.condition :=
    fun n hn => Rule.mem_nodes_iff.mp (List.mem_filter.mp hn).1
  refine List.Forall₂.imp ?_ ((List.forall₂_and_left _ _).mpr ⟨hat, hon⟩)
  rintro n w ⟨hn, hw, f, hf, hpath⟩
  have hplace : n.place ≠ [] := by
    intro hnil
    rw [hnil] at hn
    nomatch hn
  obtain ⟨hname, hfield⟩ := field?_of_offending hf
  have hplain : ∀ s ∈ ["propertySet", "quantitySet", "system", "conditions", "type"],
      '.' ∉ s.toList ∧ '[' ∉ s.toList := by decide
  obtain ⟨hp, hb⟩ := hplain f.1 hname
  have hnode := follow?_of_ruleAt? hn
  refine ⟨hw, hnode, f, hf, ?_, ?_⟩
  · rw [hpath, readPath?_rulePath hp hb hplace]
  · rw [Value.follow?_append, hnode, Option.bind_some, Value.follow?, Value.part?, hfield]
    rfl

/-- The warnings on a rule are, in the order of the conditions, one for each condition inside it that
is at fault, and each of them leads to the fault; they do not make a rule invalid. -/
theorem ofRule_warnings (ix : Index) (r : Rule) :
    List.Forall₂ (Node.WarnedBy r) (r.nodes.filter fun n => n.condition.Offends ix)
        (ofRule ix r).warnings ∧
      ((ofRule ix r).isValid = true ↔ r.conditions ≠ []) := by
  refine ⟨warnedBy_warnings ix r, ?_⟩
  cases h : r.conditions with
  | nil => simp [ofRule, isValid, h]
  | cons c cs => simp [ofRule, isValid, h]

end Advice

end BuildingQuery
