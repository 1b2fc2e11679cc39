import BuildingQuery.Proofs.Condition.RoundTrip
import BuildingQuery.Proofs.Draft.Failures
import Mathlib.Logic.Function.Iterate

/-! Selecting types again. A selection takes the place of the test of types in front, so that the
last of several selections counts. But one that names no types puts no test there: if another test
of types comes to the front, the next selection takes that one away too. -/

namespace BuildingQuery

/-- The test of types that a selection puts in front: none for no names, or if the first is a
star. -/
def TypeNames.seed (ns : TypeNames) : Option Condition :=
  if ns.toList.head?.all (· == "*") then none else some (.type ⟨.many ns.toList, true, none⟩)

namespace Draft

theorem typeTest_list (ss : List String) :
    typeTest (.list (ss.map .str)) = .ok (.type ⟨.many ss, true, none⟩) := by
  have hnames := TypeTest.namesDecoder_document (.many ss)
  have hread : TypeTest.ofFields (asFields [("entity_type", .list (ss.map .str))]) =
      .ok ⟨.many ss, true, none⟩ := by
    rw [TypeTest.ofFields, Decoder.required_eq_ok.mpr ⟨_, rfl, hnames⟩]
    rfl
  rw [typeTest, hread]
  rfl

theorem seed_document (ns : TypeNames) : seed ns.document = .ok ns.seed := by
  have hlist : ∀ s ss, (if (Value.str s).same (.str "*") then return none
      else some <$> typeTest (.list ((s :: ss).map .str)) : Attempt (Option Condition)) =
        .ok (TypeNames.many (s :: ss)).seed := by
    intro s ss
    have hsame : (Value.str s).same (.str "*") = (s == "*") := by rw [Value.same]
    have hhead : ((s :: ss).head?.all fun n => n == "*") = (s == "*") := rfl
    rw [hsame, typeTest_list, TypeNames.seed, TypeNames.toList, hhead]
    cases s == "*" <;> rfl
  cases ns with
  | one s => exact hlist s []
  | many ss =>
    cases ss with
    | nil => rfl
    | cons s ss => exact hlist s ss

theorem step_select (d : Draft) (ns : TypeNames) :
    d.step (.select ns.document) =
      ({ d with entries := ns.seed.toList.map .condition ++ withoutSeed d.entries }, none) := by
  unfold step
  simp only [seed_document]

/-- The draft after a selection of types. -/
def seeded (d : Draft) (ns : TypeNames) : Draft := (d.step (.select ns.document)).1

theorem seeded_eq (d : Draft) (ns : TypeNames) :
    d.seeded ns = { d with entries := ns.seed.toList.map .condition ++ withoutSeed d.entries } := by
  rw [seeded, step_select]

theorem withoutSeed_append (ns : TypeNames) (es : List DraftEntry) :
    withoutSeed (ns.seed.toList.map .condition ++ es) =
      if ns.seed.isSome then es else withoutSeed es := by
  rw [TypeNames.seed]
  cases ns.toList.head?.all (· == "*") <;> rfl

/-- One test of types is gone for the last selection, and one for each earlier one that put none in
its place. -/
theorem seeded_foldl (d : Draft) (earlier : List TypeNames) (last : TypeNames) :
    (earlier.foldl seeded d).seeded last =
      { d with entries := last.seed.toList.map .condition ++
        withoutSeed^[earlier.countP (·.seed.isNone) + 1] d.entries } := by
  induction earlier generalizing d with
  | nil => exact d.seeded_eq last
  | cons ns earlier ih =>
    rw [List.foldl_cons, ih, seeded_eq, List.countP_cons]
    -- What the first selection put in front is what the next one takes away.
    simp only [Function.iterate_succ_apply, withoutSeed_append]
    cases ns.seed with
    | none => rfl
    | some c => rfl

def BeginsWithTwoTypes (d : Draft) : Prop :=
  ∃ t u es, d.entries = .condition (.type t) :: .condition (.type u) :: es

theorem withoutSeed_twice_iff (d : Draft) :
    withoutSeed (withoutSeed d.entries) = withoutSeed d.entries ↔ ¬ d.BeginsWithTwoTypes := by
  have hfront : ({ d with entries := withoutSeed d.entries } : Draft).BeginsWithTypes ↔
      d.BeginsWithTwoTypes := by
    by_cases hd : d.BeginsWithTypes
    · obtain ⟨t, es, he⟩ := hd
      rw [BeginsWithTypes, BeginsWithTwoTypes, he]
      constructor
      · rintro ⟨u, fs, hu⟩
        exact ⟨t, u, fs, congrArg (_ :: ·) hu⟩
      · rintro ⟨t', u, fs, hu⟩
        exact ⟨u, fs, (List.cons.inj hu).2⟩
    · rw [entries_of_not_begins hd]
      refine iff_of_false hd ?_
      rintro ⟨t, u, es, he⟩
      exact hd ⟨t, _, he⟩
  rw [← hfront]
  constructor
  · intro hsame hbegins
    exact entries_of_begins hbegins hsame
  · exact entries_of_not_begins

/-- A selection of types changes the entries only: it takes away the test of types in front, if
there is one, and puts its own there, if it names any types. Of two selections the second counts
alone, unless the first names no types and the draft begins with two tests of types. Of a run of
selections the last counts, but one more test is gone for each earlier one that names no types. -/
theorem last_selection_counts_iff (d : Draft) :
    (∀ ns : TypeNames, d.step (.select ns.document) =
      ({ d with entries := ns.seed.toList.map .condition ++ withoutSeed d.entries }, none)) ∧
    (∀ a b : TypeNames, (d.seeded a).seeded b = d.seeded b ↔
      a.seed.isSome = true ∨ ¬ d.BeginsWithTwoTypes) ∧
    ∀ (earlier : List TypeNames) (last : TypeNames), (earlier.foldl seeded d).seeded last =
      { d with entries := last.seed.toList.map .condition ++
        withoutSeed^[earlier.countP (·.seed.isNone) + 1] d.entries } := by
  refine ⟨d.step_select, fun a b => ?_, d.seeded_foldl⟩
  have hpair := d.seeded_foldl [a] b
  rw [List.foldl_cons, List.foldl_nil, List.countP_singleton] at hpair
  rw [hpair, seeded_eq]
  cases a.seed with
  | some c => exact iff_of_true rfl (.inl rfl)
  | none =>
    have htwice : withoutSeed^[1 + 1] d.entries = withoutSeed (withoutSeed d.entries) := rfl
    simp only [Option.isNone_none, if_true, htwice, Option.isSome_none, Bool.false_eq_true,
      false_or]
    rw [← withoutSeed_twice_iff]
    constructor
    · intro hsame
      exact List.append_cancel_left (congrArg entries hsame)
    · intro hsame
      rw [hsame]

/-- Walls, and doors by a condition of its own. -/
def wallsAndThenDoors : Draft :=
  (walls.step (.add (Value.record [("type", .str "entityType"), ("entityType", .str "IfcDoor")]))).1

/-- To select all types once more takes away the test that was left. -/
theorem selection_repeated_removes_more :
    (wallsAndThenDoors.seeded (.one "*")).entries =
        [.condition (.type ⟨.one "IfcDoor", true, none⟩)] ∧
      ((wallsAndThenDoors.seeded (.one "*")).seeded (.one "*")).entries = [] := ⟨rfl, rfl⟩

end Draft

end BuildingQuery
