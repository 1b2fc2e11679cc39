import BuildingQuery.Proofs.Condition.Origin
import BuildingQuery.Proofs.Condition.Payload

/-! Groups in documents. A group is read by reading its members: it is what they are read as, or
else wrong with it is what is wrong with each of them, one after the other. So whatever stands in a
tree of groups neither hides nor moves what is wrong elsewhere in it. -/

namespace BuildingQuery

open Checked Decoder

namespace ConditionTag

/-- The kinds of conditions that are known, as documents name them. -/
def knownNames : List String := [.all, .any, .none].map GroupKind.name ++ single.map name

theorem find?_named_eq_none_iff {α : Type} {name : α → String} {as : List α} {s : String} :
    as.find? (name · == s) = none ↔ s ∉ as.map name := by
  simp [List.find?_eq_none]

theorem ofName_eq_unknown_iff {s : String} : ofName s = unknown ↔ s ∉ knownNames := by
  rw [knownNames, List.mem_append, not_or, ← find?_named_eq_none_iff, ← find?_named_eq_none_iff,
    ofName, GroupKind.named?]
  cases [GroupKind.all, .any, .none].find? (·.name == s) with
  | some k => simp
  | none =>
    cases ht : single.find? (·.name == s) with
    | some t =>
      have hne : t ≠ unknown := by
        rintro rfl
        exact absurd (List.mem_of_find?_eq_some ht) (by decide)
      simp [hne]
    | none => simp

end ConditionTag

namespace Condition

variable {o : Origin} {d e : Value} {k : GroupKind} {ds : List Value}

/-- The document of a group, with those of its members. -/
structure IsGroup (d : Value) (k : GroupKind) (ds : List Value) : Prop where
  kind : d.field? "type" = some (.str k.name)
  members : d.field? "conditions" = some (.list ds)

/-- The steps to a member in the path of an issue. -/
def memberSteps (i : Nat) : List Step := [.name "composite", .name "conditions", .place i]

theorem IsGroup.read_eq (h : IsGroup d k ds) :
    read o d = (group k <$> (Checked.traverse (read o) 0 ds).under [.name "conditions"]).under
      [.name "composite"] := by
  obtain ⟨hk, hds⟩ := h
  cases d with
  | map fs =>
    have htag : ConditionTag.ofFields fs = .group k := by
      have hget : OrderedMap.get? fs (.str "type") = some (.str k.name) := hk
      simp only [ConditionTag.ofFields, hget, ConditionTag.ofName, GroupKind.named?_name]
    have hfind : FieldName.find? "conditions" fs = some ("conditions", .list ds) := by
      have hget : OrderedMap.get? fs (.str "conditions") = some (.list ds) := hds
      rw [FieldName.find?_coe, hget]
      rfl
    rw [read]
    simp only [htag, readMembers_eq_optional, Decoder.optional, hfind, tuple]
    rfl
  | _ => cases hk

theorem IsGroup.read_eq_ok_iff (h : IsGroup d k ds) {c : Condition} :
    read o d = .ok c ↔
      ∃ cs, List.Forall₂ (fun e m => read o e = .ok m) ds cs ∧ c = group k cs := by
  rw [h.read_eq, under_eq_ok, map_eq_ok]
  refine exists_congr fun cs => ?_
  rw [under_eq_ok, traverse_eq_ok_iff, eq_comm (a := c)]

theorem IsGroup.exists_read_iff (h : IsGroup d k ds) :
    (∃ c, read o d = .ok c) ↔ ∀ e ∈ ds, ∃ m, read o e = .ok m := by
  rw [← exists_traverse_iff 0]
  simp only [h.read_eq_ok_iff, traverse_eq_ok_iff]
  constructor
  · rintro ⟨c, cs, hcs, -⟩
    exact ⟨cs, hcs⟩
  · rintro ⟨cs, hcs⟩
    exact ⟨_, cs, hcs, rfl⟩

theorem IsGroup.issues_read (h : IsGroup d k ds) :
    (read o d).issues =
      ds.zipIdx.flatMap fun m => (read o m.1).issues.map (Issue.under (memberSteps m.2)) := by
  rw [h.read_eq, issues_under, issues_map, issues_under, issues_traverse]
  simp only [List.map_flatMap, List.map_map]
  rfl

theorem IsGroup.read_eq_wrong_iff (h : IsGroup d k ds) {is : List Issue} :
    read o d = .wrong is ↔ (∃ e ∈ ds, ∀ m, read o e ≠ .ok m) ∧
      is = ds.zipIdx.flatMap fun m =>
        (read o m.1).issues.map (Issue.under (memberSteps m.2)) := by
  have hfails : (∀ c, read o d ≠ .ok c) ↔ ∃ e ∈ ds, ∀ m, read o e ≠ .ok m := by
    rw [← not_exists, h.exists_read_iff]
    simp
  rw [eq_wrong_iff, hfails, h.issues_read, eq_comm (a := is)]

/-- What stands in a tree of groups at a place: the number of a member in each group on the way. -/
inductive DocumentAt : Value → (place : List Nat) → Value → Prop where
  | here (d : Value) : DocumentAt d [] d
  | member {d e e' : Value} {k : GroupKind} {ds : List Value} {i : Nat} {place : List Nat}
      (hd : IsGroup d k ds) (hi : ds[i]? = some e) (h : DocumentAt e place e') :
      DocumentAt d (i :: place) e'

def issueSteps (place : List Nat) : List Step := place.flatMap memberSteps

def liesUnder (steps : List Step) (i : Issue) : Bool := steps.isPrefixOf i.path

theorem liesUnder_issueSteps_cons (i j : Nat) (place : List Nat) (issue : Issue) :
    liesUnder (issueSteps (i :: place)) (issue.under (memberSteps j)) =
      (decide (i = j) && liesUnder (issueSteps place) issue) := by
  have hsteps : issueSteps (i :: place) = memberSteps i ++ issueSteps place := rfl
  rw [liesUnder, hsteps]
  by_cases hij : i = j
  · subst hij
    simp [liesUnder, Issue.under, memberSteps]
  · have hplace : (Step.place i == Step.place j) = false := by
      simp only [beq_eq_false_iff_ne, ne_eq, Step.place.injEq]
      omega
    simp [Issue.under, memberSteps, List.isPrefixOf, hplace, hij]

/-- Only the member at a place counts, if nothing of the others is taken. -/
theorem filter_flatMap_zipIdx {α β : Type} {f : α × Nat → List β} {p : β → Bool} {as : List α}
    {a : α} {i n : Nat} (hi : as[i]? = some a)
    (h : ∀ m, m.2 ≠ n + i → (f m).filter p = []) :
    ((as.zipIdx n).flatMap f).filter p = (f (a, n + i)).filter p := by
  induction as generalizing i n with
  | nil => nomatch hi
  | cons b as ih =>
    rw [List.zipIdx_cons, List.flatMap_cons, List.filter_append]
    cases i with
    | zero =>
      obtain rfl := Option.some.inj hi
      have hrest : ((as.zipIdx (n + 1)).flatMap f).filter p = [] := by
        rw [List.filter_flatMap, List.flatMap_eq_nil_iff]
        intro m hm
        have hlt := List.le_snd_of_mem_zipIdx hm
        exact h m (by omega)
      rw [hrest, List.append_nil, Nat.add_zero]
    | succ i =>
      have hn : n + 1 + i = n + (i + 1) := by omega
      rw [h (b, n) (by simp), List.nil_append, ih (i := i) hi (by rwa [hn]), hn]

/-- Inside a tree of groups the same is wrong with a document as if it stood alone. -/
theorem DocumentAt.filter_issues {place : List Nat} (h : DocumentAt d place e) :
    (read o d).issues.filter (liesUnder (issueSteps place)) =
      (read o e).issues.map (Issue.under (issueSteps place)) := by
  induction h with
  | here d =>
    have hall : ∀ i ∈ (read o d).issues, liesUnder (issueSteps []) i = true := fun _ _ => rfl
    rw [List.filter_eq_self.mpr hall]
    exact (List.map_id' _).symm
  | @member d e e' k ds i place hd hi _ ih =>
    have hother : ∀ m : Value × Nat, m.2 ≠ 0 + i →
        ((read o m.1).issues.map (Issue.under (memberSteps m.2))).filter
          (liesUnder (issueSteps (i :: place))) = [] := by
      intro m hm
      rw [List.filter_map, List.map_eq_nil_iff, List.filter_eq_nil_iff]
      intro issue _
      rw [Function.comp_apply, liesUnder_issueSteps_cons]
      simp
      omega
    have hown : liesUnder (issueSteps (i :: place)) ∘ Issue.under (memberSteps i) =
        liesUnder (issueSteps place) := by
      funext issue
      rw [Function.comp_apply, liesUnder_issueSteps_cons, decide_eq_true rfl, Bool.true_and]
    rw [hd.issues_read, filter_flatMap_zipIdx hi hother, List.filter_map, Nat.zero_add, hown, ih,
      List.map_map]
    exact List.map_congr_left fun issue _ => Issue.under_under _ _ _

/-- A record with texts for keys, of a kind that is not known. -/
structure IsOfUnknownKind (d : Value) (kind : String) (fs : Fields) : Prop where
  eq : d = .map fs
  keys : ∀ f ∈ fs, ∃ s, f.1 = .str s
  type : OrderedMap.get? fs (.str "type") = some (.str kind)
  not_known : kind ∉ ConditionTag.knownNames

theorem IsOfUnknownKind.read_eq {kind : String} {fs : Fields} (h : IsOfUnknownKind d kind fs) :
    read o d = .ok (unknown kind (fs.filter fun f => f.1 != .str "type")) := by
  obtain ⟨rfl, hkeys, hkind, hknown⟩ := h
  have htag : ConditionTag.ofFields fs = .unknown := by
    simp only [ConditionTag.ofFields, hkind, ConditionTag.ofName_eq_unknown_iff.mpr hknown]
  have htype : required fs "type" text = .ok kind := by
    rw [required, FieldName.find?_coe, hkind]
    rfl
  have hextra := extraFields_eq_ok.mpr ⟨hkeys, rfl⟩
  rw [read]
  simp only [htag, unknownOfFields, htype, hextra, map_ok, seq_ok, under_ok]

/-- A group is read if every member is, with what the members are read as. Otherwise wrong with it
is what is wrong with the members, in their order and under their places. So, at any depth, wrong
under the place of a document is just what is wrong with this document alone, in the same order; and
nothing is wrong with one of a kind that is not known. -/
theorem read_members (h : IsGroup d k ds) :
    ((∃ c, read o d = .ok c) ↔ ∀ e ∈ ds, ∃ m, read o e = .ok m) ∧
    (∀ c, read o d = .ok c ↔
      ∃ ms, List.Forall₂ (fun e m => read o e = .ok m) ds ms ∧ c = group k ms) ∧
    (∀ is, read o d = .wrong is ↔ (∃ e ∈ ds, ∀ m, read o e ≠ .ok m) ∧
      is = ds.zipIdx.flatMap fun m =>
        (read o m.1).issues.map (Issue.under (memberSteps m.2))) ∧
    ∀ place e, DocumentAt d place e →
      (read o d).issues.filter (liesUnder (issueSteps place)) =
        (read o e).issues.map (Issue.under (issueSteps place)) ∧
      ∀ (kind : String) (fs : Fields), IsOfUnknownKind e kind fs →
        read o e = .ok (unknown kind (fs.filter fun f => f.1 != .str "type")) ∧
        ∀ i ∈ (read o d).issues, ¬ issueSteps place <+: i.path := by
  refine ⟨h.exists_read_iff, fun c => h.read_eq_ok_iff, fun is => h.read_eq_wrong_iff, ?_⟩
  intro place e he
  refine ⟨he.filter_issues, fun kind fs hu => ⟨hu.read_eq, fun i hi hprefix => ?_⟩⟩
  have hnone : (read o d).issues.filter (liesUnder (issueSteps place)) = [] := by
    rw [he.filter_issues, hu.read_eq]
    rfl
  exact List.filter_eq_nil_iff.mp hnone i hi (List.isPrefixOf_iff_prefix.mpr hprefix)

/-- A test without its comparison, a number, and a group of which one member has no text for its
kind and one is of a kind that is not known. -/
def mixedMembers : List Value := [
  Value.record [("type", .str "property"), ("propertyName", .str "Width")],
  .int 5,
  Value.record [
    ("type", .str "not"),
    ("conditions", .list [
      Value.record [("type", .list [.str "shape"])],
      Value.record [("type", .str "shape"), ("note", .null)]])]]

def mixedDocument : Value :=
  Value.record [("type", .str "or"), ("conditions", .list mixedMembers)]

theorem read_members_mixed :
    IsGroup mixedDocument .any mixedMembers ∧
      read .plain mixedDocument = .wrong [
        ⟨memberSteps 0 ++ [.name "property", .name "operator"], .missing⟩,
        ⟨memberSteps 1 ++ [.name "unknown"], .notRecord⟩,
        ⟨issueSteps [2, 0] ++ [.name "unknown", .name "type"], .notText⟩] ∧
      ∀ i ∈ (read .plain mixedDocument).issues, ¬ issueSteps [2, 1] <+: i.path := by
  have hd : IsGroup mixedDocument .any mixedMembers := ⟨rfl, rfl⟩
  obtain ⟨-, -, hwrong, hat⟩ := read_members (o := .plain) hd
  have hplace : DocumentAt mixedDocument [2, 1]
      (Value.record [("type", .str "shape"), ("note", .null)]) :=
    .member (k := .any) hd rfl (.member (k := .none) ⟨rfl, rfl⟩ rfl (.here _))
  have hunknown : IsOfUnknownKind (Value.record [("type", .str "shape"), ("note", .null)]) "shape"
      [(.str "type", .str "shape"), (.str "note", .null)] :=
    ⟨rfl, by simp, rfl, by decide⟩
  refine ⟨hd, (hwrong _).mpr ⟨⟨.int 5, by simp [mixedMembers], fun m hm => ?_⟩, rfl⟩, ?_⟩
  · nomatch hm
  · exact ((hat _ _ hplace).2 _ _ hunknown).2

end Condition

end BuildingQuery
