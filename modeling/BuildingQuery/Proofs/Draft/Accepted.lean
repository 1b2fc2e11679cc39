import BuildingQuery.Proofs.Condition.Readable
import BuildingQuery.Proofs.Draft.Failures
import BuildingQuery.Proofs.Draft.Narrowing

/-! Whether the rule of a draft is read back from its document. Every step checks what it stores,
but for a predefined type that is given to a test of types: this is stored as it is. -/

namespace BuildingQuery

open Checked Decoder

theorem Checked.attempt_eq_ok {α : Type} {x : Checked α} {a : α} :
    x.attempt = .ok a ↔ x = .ok a := by
  cases x <;> simp [attempt]

/-- A condition as it is read, but that the predefined type of a test of types need only have a
property. -/
def Condition.Stored (P : Value → Prop) : Condition → Prop
  | .type t => ∀ v, t.predefinedType = some v → P v
  | c => c.Readable

theorem Condition.Readable.stored {P : Value → Prop} {c : Condition} (h : c.Readable)
    (hP : ∀ s, P (.str s)) : c.Stored P := by
  cases c with
  | type t =>
    intro v hv
    rcases isText_of_typed ((typed_of_isLeaf rfl).mp h.typed) with ht | ⟨s, ht⟩
    · rw [ht] at hv
      nomatch hv
    · rw [ht] at hv
      exact Option.some.inj hv ▸ hP s
  | _ => exact h

namespace Draft

section Tests

variable {α : Type} {x : Checked α} {f : α → Condition} {c : Condition}

theorem readable_of_attempt (h : (f <$> x).attempt = .ok c)
    (hf : ∀ a, x = .ok a → (f a).Readable) : c.Readable := by
  obtain ⟨a, ha, rfl⟩ := map_eq_ok.mp (attempt_eq_ok.mp h)
  exact hf a ha

theorem readable_typeTest {names : Value} (h : typeTest names = .ok c) : c.Readable :=
  readable_of_attempt h fun _ ht =>
    Condition.readable_of_isKnown rfl rfl (TypeTest.typed_of_ofFields ht)

theorem readable_elevationTest {elevation tolerance : Value}
    (h : elevationTest elevation tolerance = .ok c) : c.Readable := by
  obtain ⟨low, -, h⟩ := exists_of_bind_eq_ok h
  obtain ⟨high, -, h⟩ := exists_of_bind_eq_ok h
  obtain ⟨test, -, h⟩ := exists_of_bind_eq_ok h
  obtain rfl := Except.ok.inj h
  exact Condition.readable_of_isKnown rfl rfl rfl

theorem readable_alternativeTest {a : Alternative} (h : alternativeTest a = .ok c) :
    c.Readable := by
  cases a with
  | type names =>
    cases names with
    | str s => exact readable_typeTest h
    | list vs => exact readable_typeTest h
    | map es => exact readable_typeTest h
    | _ => nomatch h
  | property set name value =>
    exact readable_of_attempt h fun _ ht =>
      Condition.readable_of_isKnown rfl rfl (PropertyTest.typed_of_ofFields ht)
  | classification system code | material name =>
    exact readable_of_attempt h fun _ _ => Condition.readable_of_isKnown rfl rfl rfl

theorem readable_seed {types : Value} (h : seed types = .ok (some c)) : c.Readable := by
  unfold seed at h
  dsimp only at h
  split at h
  · nomatch h
  · nomatch h
  · split at h
    · nomatch h
    · obtain ⟨c, hc, heq⟩ := map_eq_ok_iff.mp h
      obtain rfl := Option.some.inj heq
      exact readable_typeTest hc

end Tests

/-- The conditions of the draft are stored with the property. -/
def Stored (P : Value → Prop) (d : Draft) : Prop := ∀ c, .condition c ∈ d.entries → c.Stored P

variable {P : Value → Prop} {d : Draft}

theorem withoutSeed_sublist (es : List DraftEntry) : (withoutSeed es).Sublist es := by
  unfold withoutSeed
  split
  · exact List.sublist_cons_self _ _
  · exact List.Sublist.refl _

theorem mem_narrowTypes? {v : Value} {es es' : List DraftEntry} (h : narrowTypes? v es = some es')
    {entry : DraftEntry} (hmem : entry ∈ es') : entry ∈ es ∨
      ∃ t, entry = .condition (.type t) ∧ ∀ w, t.predefinedType = some w → w = v := by
  rcases narrowTypes?_split v es with hnone | ⟨pre, t, post, rfl, -, hsome⟩
  · rw [hnone] at h
    nomatch h
  · obtain rfl := Option.some.inj (hsome.symm.trans h)
    rcases List.mem_append.mp hmem with hpre | hrest
    · exact .inl (List.mem_append_left _ hpre)
    · rcases List.mem_cons.mp hrest with rfl | hpost
      · refine .inr ⟨_, rfl, fun w hw => ?_⟩
        dsimp only at hw
        split at hw
        · nomatch hw
        · exact (Option.some.inj hw).symm
      · exact .inl (List.mem_append_right _ (List.mem_cons_of_mem _ hpost))

section Steps

variable (hP : ∀ s, P (.str s)) (hd : d.Stored P)
include hP hd

theorem stored_push {c : Condition} (hc : c.Readable) : (d.push c).Stored P := by
  intro c' hc'
  rcases List.mem_append.mp hc' with hc' | hc'
  · exact hd c' hc'
  · obtain rfl := DraftEntry.condition.inj (List.mem_singleton.mp hc')
    exact hc.stored hP

omit hP in
theorem stored_outcome {r : Attempt Draft} (hr : ∀ d', r = .ok d' → d'.Stored P) :
    (d.outcome r).1.Stored P := by
  cases r with
  | ok d' => exact hr d' rfl
  | error e => exact hd

theorem stored_outcome_push {r : Attempt Condition} (hr : ∀ c, r = .ok c → c.Readable) :
    (d.outcome (d.push <$> r)).1.Stored P := by
  refine stored_outcome hd fun d' h => ?_
  obtain ⟨c, hc, rfl⟩ := map_eq_ok_iff.mp h
  exact stored_push hP hd (hr c hc)

theorem stored_addRaw {v : Value} {d' : Draft} (h : d.addRaw v = .ok d') : d'.Stored P := by
  unfold addRaw at h
  split at h
  · obtain ⟨c, hc, rfl⟩ := map_eq_ok_iff.mp h
    exact stored_push hP hd (Condition.readable_of_read (attempt_eq_ok.mp hc))
  · obtain rfl := Except.ok.inj h
    intro c hc
    exact hd c (by simpa using hc)

theorem stored_anyOf {alternatives : List Alternative} {d' : Draft}
    (h : (do
      let cs ← alternatives.mapM alternativeTest
      return if cs.isEmpty then d else d.push (.group .any cs)) = (.ok d' : Attempt Draft)) :
    d'.Stored P := by
  obtain ⟨cs, hcs, h⟩ := exists_of_bind_eq_ok h
  obtain rfl := Except.ok.inj h
  split
  · exact hd
  · refine stored_push hP hd (Condition.readable_group.mpr fun c hc => ?_)
    obtain ⟨a, -, ha⟩ := exists_of_forall₂ (mapM_eq_ok_iff.mp hcs) c hc
    exact readable_alternativeTest ha

theorem stored_select (types : Value) : (d.step (.select types)).1.Stored P := by
  have hrest : ∀ c, .condition c ∈ withoutSeed d.entries → c.Stored P :=
    fun c hc => hd c ((withoutSeed_sublist _).subset hc)
  unfold step
  dsimp only
  cases hs : seed types with
  | error e => exact hrest
  | ok seeded =>
    intro c hc
    rcases List.mem_append.mp hc with hc | hc
    · obtain ⟨c', hc', heq⟩ := List.mem_map.mp hc
      obtain rfl := DraftEntry.condition.inj heq
      obtain rfl := Option.mem_toList.mp hc'
      exact (readable_seed hs).stored hP
    · exact hrest c hc

theorem stored_predefinedType {v : Value} (hv : P v) :
    (d.step (.predefinedType v)).1.Stored P := by
  unfold step
  dsimp only
  cases hn : narrowTypes? v d.entries with
  | none =>
    exact stored_outcome_push hP hd fun c hc =>
      readable_of_attempt hc fun _ _ => Condition.readable_of_isKnown rfl rfl rfl
  | some es =>
    intro c hc
    rcases mem_narrowTypes? hn hc with hc | ⟨t, heq, ht⟩
    · exact hd c hc
    · obtain rfl := DraftEntry.condition.inj heq
      exact fun w hw => ht w hw ▸ hv

/-- What a step stores is read from what it is given, but for a predefined type. -/
theorem stored_step {s : DraftStep} (hs : ∀ v, s = .predefinedType v → P v) :
    (d.step s).1.Stored P := by
  cases s with
  | select types => exact stored_select hP hd types
  | predefinedType v => exact stored_predefinedType hP hd (hs v rfl)
  | setId v | setName v | setDescription v | matchAny => exact hd
  | add v => exact stored_outcome hd fun _ => stored_addRaw hP hd
  | anyOf alternatives => exact stored_outcome hd fun _ => stored_anyOf hP hd
  | atElevation elevation tolerance =>
    exact stored_outcome_push hP hd fun _ => readable_elevationTest
  | property path op value upper =>
    exact stored_outcome_push hP hd fun _ hc => readable_of_attempt hc fun _ ht =>
      Condition.readable_of_isKnown rfl rfl (PropertyTest.typed_of_ofFields ht)
  | _ =>
    exact stored_outcome_push hP hd fun _ hc =>
      readable_of_attempt hc fun _ _ => Condition.readable_of_isKnown rfl rfl rfl

end Steps

theorem stored_call (hP : ∀ s, P (.str s)) (hd : d.Stored P) {c : DraftCall}
    (hc : ∀ v, c.step? = some (.predefinedType v) → P v) : (d.call c).1.Stored P := by
  cases c with
  | step s => exact stored_step hP hd fun v hs => hc v (congrArg some hs)
  | written name args =>
    rw [call, runStep]
    cases hr : readStep name args with
    | error e => exact hd
    | ok s =>
      have hstep : (DraftCall.written name args).step? = some s := by
        rw [DraftCall.step?, hr]
        rfl
      exact stored_step hP hd fun v hs => hc v (hs ▸ hstep)
  | build =>
    rw [call]
    cases d.build <;> exact hd

theorem stored_run (hP : ∀ s, P (.str s)) {cs : List DraftCall} (hd : d.Stored P)
    (hcs : ∀ c ∈ cs, ∀ v, c.step? = some (.predefinedType v) → P v) : (d.run cs).Stored P := by
  induction cs generalizing d with
  | nil => exact hd
  | cons c cs ih =>
    obtain ⟨hc, hcs⟩ := List.forall_mem_cons.mp hcs
    exact ih (stored_call hP hd hc) hcs

theorem stored_addAll (hP : ∀ s, P (.str s)) {vs : List Value} {d' : Draft} (hd : d.Stored P)
    (h : d.addAll vs = .ok d') : d'.Stored P := by
  induction vs generalizing d with
  | nil => exact Except.ok.inj h ▸ hd
  | cons v vs ih =>
    obtain ⟨d₁, h₁, h⟩ := exists_of_bind_eq_ok h
    exact ih (stored_addRaw hP hd h₁) h

theorem stored_begin (hP : ∀ s, P (.str s)) {seconds : Value.Numeric} {name : String}
    {args : List Value} (h : begin seconds name args = .ok d) : d.Stored P := by
  have hempty : (empty seconds).Stored P := fun c hc => nomatch hc
  unfold begin at h
  dsimp only at h
  split at h
  · exact Except.ok.inj h ▸ hempty
  · exact Except.ok.inj h ▸ hempty
  case h_3 types _ =>
    have hselect := stored_select hP hempty types
    rcases hstep : (empty seconds).step (.select types) with ⟨d', _ | e⟩ <;> rw [hstep] at h hselect
    · exact Except.ok.inj h ▸ hselect
    · nomatch h
  · exact stored_addAll hP hempty h
  · split at h
    · exact stored_addAll hP hempty h
    · nomatch h
  all_goals nomatch h

theorem stored_of_build (hP : ∀ s, P (.str s)) (hd : d.Stored P) {r : Rule} (h : d.build = .ok r) :
    ∀ c ∈ r.conditions, c.Stored P := by
  intro c hc
  obtain ⟨entry, hentry, hread⟩ := exists_of_forall₂ (build_eq_ok h).1 c hc
  cases entry with
  | condition c' =>
    obtain rfl := Checked.ok.inj hread
    exact hd c' hentry
  | other v => exact (Condition.readable_of_read hread).stored hP

end Draft

/-- A stored condition is read back, unless it is a test of types. -/
theorem Condition.Stored.exists_read_document_iff {o : Origin} {P : Value → Prop} {c : Condition}
    (h : c.Stored P) : (∃ m, read o (c.document .dropped) = .ok m) ↔
      ∀ t v, c = .type t → t.predefinedType = some v → v.isWrittenAsText = true := by
  cases c with
  | type t =>
    rw [exists_read_type_iff]
    constructor
    · rintro h _ v ⟨⟩
      exact h v
    · exact fun h v => h t v rfl
  | _ => exact iff_of_true (Readable.exists_read_document h) (by rintro t v ⟨⟩)

namespace Draft

variable {d : Draft} {seconds : Value.Numeric} {name : String} {args : List Value}
  {cs : List DraftCall} {r : Rule}

/-- Where a predefined type comes from: it is a text, or one of the calls gave it. -/
def TextOrGiven (cs : List DraftCall) (v : Value) : Prop :=
  (∃ s, v = .str s) ∨ ∃ c ∈ cs, c.step? = some (.predefinedType v)

/-- The rule of a draft that was begun and had any calls, whether they went well or not, is read back
from its document exactly if the predefined type of each test of types among its conditions is
written as a text or as nothing. Where it is no text, a call gave it; so the rule is read back if no
call gave anything else. -/
theorem built_accepted_iff (hbegin : begin seconds name args = .ok d)
    (hbuild : (d.run cs).build = .ok r) :
    ((∃ s, Rule.read r.document = .ok s) ↔ ∀ t v, .type t ∈ r.conditions →
      t.predefinedType = some v → v.isWrittenAsText = true) ∧
    (∀ t v, .type t ∈ r.conditions → t.predefinedType = some v → TextOrGiven cs v) ∧
    ((∀ c ∈ cs, ∀ v, c.step? = some (.predefinedType v) → v.isWrittenAsText = true) →
      ∃ s, Rule.read r.document = .ok s) := by
  have htext : ∀ s, TextOrGiven cs (.str s) := fun s => .inl ⟨s, rfl⟩
  have hstored : ∀ c ∈ r.conditions, c.Stored (TextOrGiven cs) :=
    stored_of_build htext (stored_run htext (stored_begin htext hbegin)
      fun c hc v hv => .inr ⟨c, hc, hv⟩) hbuild
  have hgiven : ∀ t v, .type t ∈ r.conditions → t.predefinedType = some v →
      TextOrGiven cs v :=
    fun t v ht hv => hstored _ ht v hv
  have hread : (∃ s, Rule.read r.document = .ok s) ↔ ∀ t v, .type t ∈ r.conditions →
      t.predefinedType = some v → v.isWrittenAsText = true := by
    rw [Rule.exists_read_document_iff]
    constructor
    · intro h t v ht hv
      exact (hstored _ ht).exists_read_document_iff.mp (h _ ht) t v rfl hv
    · intro h c hc
      refine (hstored c hc).exists_read_document_iff.mpr ?_
      rintro t v rfl hv
      exact h t v hc hv
  refine ⟨hread, hgiven, fun hcs => hread.mpr fun t v ht hv => ?_⟩
  rcases hgiven t v ht hv with ⟨s, rfl⟩ | ⟨c, hc, hstep⟩
  · rfl
  · exact hcs c hc v hstep

/-- A call that fails, and two predefined types, of which the second counts. -/
def narrowedWalls (v : Value) : List DraftCall := [
  .written "with_material" [.int 3],
  .step (.predefinedType (.str "SOLIDWALL")),
  .written "with_predefined_type" [v]]

def narrowedWallsRule (v : Value) : Rule where
  id := "rule-0"
  name := "Unnamed Rule"
  description := none
  conditions := [.type ⟨.many ["IfcWall"], true, some v⟩]
  mode := .all

theorem built_accepted_iff_gate :
    begin (.int 0) "select" [.str "IfcWall"] = .ok walls ∧
      (walls.run (narrowedWalls (.str "GATE"))).build = .ok (narrowedWallsRule (.str "GATE")) ∧
      ∃ s, Rule.read (narrowedWallsRule (.str "GATE")).document = .ok s := by
  have hbegin : begin (.int 0) "select" [.str "IfcWall"] = .ok walls := rfl
  have hbuild : (walls.run (narrowedWalls (.str "GATE"))).build =
      .ok (narrowedWallsRule (.str "GATE")) := rfl
  refine ⟨hbegin, hbuild, (built_accepted_iff hbegin hbuild).1.mpr fun t v ht hv => ?_⟩
  obtain rfl := Condition.type.inj (List.mem_singleton.mp ht)
  obtain rfl := Option.some.inj hv
  rfl

/-- A number is stored as a predefined type, and the document of the rule is refused. -/
theorem built_refused :
    begin (.int 0) "select" [.str "IfcWall"] = .ok walls ∧
      (walls.run (narrowedWalls (.int 5))).build = .ok (narrowedWallsRule (.int 5)) ∧
      Rule.read (narrowedWallsRule (.int 5)).document = .wrong [
        ⟨[.name "conditions", .place 0, .name "entityType", .name "predefinedType"], .notText⟩] :=
  ⟨rfl, rfl, rfl⟩

end Draft

end BuildingQuery
