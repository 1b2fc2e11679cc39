import BuildingQuery.Draft.Script

/-! Calls that go wrong. A selection of types takes the old test of types away before it looks at
the new types, so that one that goes wrong selects all types; every other call that goes wrong
leaves the draft as it was. -/

namespace BuildingQuery

def DraftStep.isSelection : DraftStep → Bool
  | .select _ => true
  | _ => false

inductive DraftCall where
  | step (s : DraftStep)
  /-- A step by its name, as a script has it. -/
  | written (name : String) (args : List Value)
  | build

namespace DraftCall

/-- The step that is taken, if there is one. -/
def step? : DraftCall → Option DraftStep
  | step s => some s
  | written name args => (Draft.readStep name args).toOption
  | build => none

def isSelection (c : DraftCall) : Bool := c.step?.any DraftStep.isSelection

def selectAll : DraftCall := .step (.select (.str "*"))

end DraftCall

namespace Draft

/-- The draft after a call, and what went wrong. -/
def call (d : Draft) : DraftCall → Draft × Option StepError
  | .step s => d.step s
  | .written name args => d.runStep name args
  | .build =>
    match d.build with
    | .ok _ => (d, none)
    | .wrong is => (d, some (.wrong is))

/-- The draft after calls of which any may go wrong. -/
def run (d : Draft) (cs : List DraftCall) : Draft := cs.foldl (fun d c => (d.call c).1) d

/-- Calls that all go well lead from one draft to another. -/
inductive Leads : Draft → List DraftCall → Draft → Prop where
  | nil (d : Draft) : Leads d [] d
  | cons {d d' d'' : Draft} {c : DraftCall} {cs : List DraftCall} (h : d.call c = (d', none))
      (hs : Leads d' cs d'') : Leads d (c :: cs) d''

/-- The calls that go well, and a selection of all types for each selection that does not. -/
def effective : Draft → List DraftCall → List DraftCall
  | _, [] => []
  | d, c :: cs =>
    match d.call c with
    | (d', none) => c :: d'.effective cs
    | (d', some _) =>
      if c.isSelection then DraftCall.selectAll :: d'.effective cs else d'.effective cs

/-- The first of the conditions is a test of types. -/
def BeginsWithTypes (d : Draft) : Prop := ∃ t es, d.entries = .condition (.type t) :: es

variable {d : Draft} {c : DraftCall} {s : DraftStep} {e : StepError}

theorem call_selectAll (d : Draft) :
    d.call .selectAll = ({ d with entries := withoutSeed d.entries }, none) := rfl

theorem entries_of_begins (h : d.BeginsWithTypes) : withoutSeed d.entries ≠ d.entries := by
  obtain ⟨t, es, h⟩ := h
  rw [h, withoutSeed]
  intro heq
  have hlen := congrArg List.length heq
  simp at hlen

theorem entries_of_not_begins (h : ¬ d.BeginsWithTypes) : withoutSeed d.entries = d.entries := by
  cases he : d.entries with
  | nil => rfl
  | cons entry es =>
    cases entry with
    | other v => rfl
    | condition c =>
      cases c with
      | type t => exact absurd ⟨t, es, he⟩ h
      | _ => rfl

/-- The outcome of a step that makes the new draft first and then takes it. -/
def outcome (d : Draft) : Attempt Draft → Draft × Option StepError
  | .ok d' => (d', none)
  | .error e => (d, some e)

theorem outcome_failed {r : Attempt Draft} (h : (d.outcome r).2 = some e) :
    (d.outcome r).1 = d := by
  cases r with
  | ok d' => nomatch h
  | error e => rfl

theorem step_failed (h : (d.step s).2 = some e) :
    (d.step s).1 = if s.isSelection then (d.call .selectAll).1 else d := by
  cases s with
  | select types =>
    unfold step at h ⊢
    dsimp only at h ⊢
    cases hs : seed types with
    | ok seeded =>
      rw [hs] at h
      nomatch h
    | error _ => rfl
  | predefinedType v =>
    unfold step at h ⊢
    dsimp only at h ⊢
    cases hn : narrowTypes? v d.entries with
    | some es =>
      rw [hn] at h
      nomatch h
    | none =>
      rw [hn] at h
      exact outcome_failed (d := d) (r := d.push <$> textTest .predefinedType .equals v) h
  | setId v | setName v | setDescription v | matchAny => nomatch h
  | _ => exact outcome_failed h

theorem call_failed (h : (d.call c).2 = some e) :
    (d.call c).1 = if c.isSelection then (d.call .selectAll).1 else d := by
  cases c with
  | step s => exact step_failed h
  | written name args =>
    cases hr : readStep name args with
    | error _ =>
      have hcall : (d.call (.written name args)).1 = d := by rw [call, runStep, hr]
      have hs : (DraftCall.written name args).isSelection = false := by
        rw [DraftCall.isSelection, DraftCall.step?, hr]
        rfl
      rw [hcall, hs, if_neg Bool.false_ne_true]
    | ok s =>
      have hcall : d.call (.written name args) = d.step s := by rw [call, runStep, hr]
      have hs : (DraftCall.written name args).isSelection = s.isSelection := by
        rw [DraftCall.isSelection, DraftCall.step?, hr]
        rfl
      rw [hcall] at h ⊢
      rw [hs]
      exact step_failed h
  | build =>
    rw [call] at h ⊢
    cases hb : d.build with
    | ok r =>
      rw [hb] at h
      nomatch h
    | wrong is => rfl

/-- Failing calls count for nothing in a run, but that a failing selection selects all types. -/
theorem leads_effective (d : Draft) (cs : List DraftCall) :
    d.Leads (d.effective cs) (d.run cs) := by
  induction cs generalizing d with
  | nil => exact .nil d
  | cons c cs ih =>
    have hrun : d.run (c :: cs) = (d.call c).1.run cs := rfl
    rw [effective, hrun]
    rcases hc : d.call c with ⟨d', _ | e⟩
    · exact .cons hc (ih d')
    · have hd : d' = if c.isSelection then (d.call .selectAll).1 else d := by
        have hf := call_failed (d := d) (c := c) (e := e) (by rw [hc])
        rwa [hc] at hf
      cases hs : c.isSelection with
      | true =>
        rw [hs, if_pos rfl] at hd
        exact .cons (hd ▸ call_selectAll d) (ih d')
      | false =>
        rw [hs, if_neg Bool.false_ne_true] at hd
        exact hd ▸ ih d'

/-- A call that goes wrong changes a draft exactly if it is a selection and the draft begins with a
test of types; it then does what a selection of all types does. So a run leads where its calls that
go well lead, with a selection of all types for each selection that goes wrong. -/
theorem failed_call_changes_iff (d : Draft) :
    (∀ c e, (d.call c).2 = some e →
      ((d.call c).1 ≠ d ↔ c.isSelection = true ∧ d.BeginsWithTypes) ∧
      (c.isSelection = true → d.call .selectAll = ((d.call c).1, none))) ∧
    ∀ cs, d.Leads (d.effective cs) (d.run cs) := by
  refine ⟨fun c e h => ?_, d.leads_effective⟩
  have hc := call_failed h
  cases hs : c.isSelection with
  | false =>
    rw [hs, if_neg Bool.false_ne_true] at hc
    simp [hc]
  | true =>
    rw [hs, if_pos rfl] at hc
    refine ⟨?_, fun _ => by rw [hc, call_selectAll]⟩
    rw [hc, call_selectAll]
    constructor
    · intro hne
      refine ⟨rfl, Classical.byContradiction fun hb => hne ?_⟩
      rw [entries_of_not_begins hb]
    · rintro ⟨-, hb⟩ heq
      exact entries_of_begins hb (congrArg entries heq)

/-- A draft for walls. -/
def walls : Draft := ((empty (.int 0)).step (.select (.str "IfcWall"))).1

/-- A selection of doors and of what is no name of a type. -/
def doorsAndFive : DraftCall := .step (.select (.list [.str "IfcDoor", .int 5]))

theorem failed_call_changes_iff_walls :
    (∃ e, (walls.call doorsAndFive).2 = some e) ∧ walls.BeginsWithTypes ∧
      (walls.call doorsAndFive).1 ≠ walls ∧
      walls.call .selectAll = ((walls.call doorsAndFive).1, none) := by
  have he : ∃ e, (walls.call doorsAndFive).2 = some e := ⟨_, rfl⟩
  have hb : walls.BeginsWithTypes := ⟨_, _, rfl⟩
  obtain ⟨e, he'⟩ := he
  obtain ⟨hchange, hall⟩ := (failed_call_changes_iff walls).1 doorsAndFive e he'
  exact ⟨⟨e, he'⟩, hb, hchange.mpr ⟨rfl, hb⟩, hall rfl⟩

/-- A call that goes wrong can leave a draft other than it was: the test for walls is gone. -/
theorem failed_selection_removes_types :
    (walls.call doorsAndFive).2.isSome = true ∧ walls.entries.length = 1 ∧
      (walls.call doorsAndFive).1.entries.length = 0 := ⟨rfl, rfl, rfl⟩

end Draft

end BuildingQuery
