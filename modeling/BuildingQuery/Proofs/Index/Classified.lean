import BuildingQuery.Index.Assignment
import BuildingQuery.Proofs.OrderedMap
import BuildingQuery.Proofs.Walk

/-! The classifications of an element. A reference is resolved by the walk from source to source,
which passes references only and ends at a system, or where the sources lead nowhere or in a
circle. -/

namespace BuildingQuery.Classifications

variable {c : Classifications} {id v x : Int}

def code? (c : Classifications) (id : Int) : Option String := (c.references.get? id).map (·.code)

def source? (c : Classifications) (id : Int) : Option Int := (c.references.get? id).bind (·.source)

/-- The reference directly above another one: its source, unless that is a system or unknown. -/
def above? (c : Classifications) (id : Int) : Option Int :=
  (c.source? id).filter fun v => (c.systems.get? v).isNone && (c.references.get? v).isSome

/-- The id that ends a walk: the source of the last reference passed. -/
def exit? (c : Classifications) (visited : List Int) : Option Int :=
  visited.getLast?.bind c.source?

/-- The system that a walk ends at, if its id was not passed as that of a reference. -/
def reached? (c : Classifications) (visited : List Int) : Option ClassificationSystem :=
  ((c.exit? visited).filter fun v => !visited.contains v).bind c.systems.get?

theorem above?_eq_some_iff : c.above? id = some v ↔
    c.source? id = some v ∧ c.systems.get? v = none ∧ (c.references.get? v).isSome = true := by
  simp [above?, Option.filter_eq_some_iff]

theorem source?_of_get? {r : ClassificationReference} (hr : c.references.get? id = some r) :
    c.source? id = r.source := by
  rw [source?, hr, Option.bind_some]

theorem mem_keys_of_source? (h : c.source? id = some v) : id ∈ c.references.keys := by
  obtain ⟨r, hr, -⟩ := Option.bind_eq_some_iff.mp h
  exact List.mem_map.mpr ⟨_, OrderedMap.mem_of_get? hr, rfl⟩

theorem mem_keys_of_above? (h : c.above? id = some v) : id ∈ c.references.keys :=
  mem_keys_of_source? (above?_eq_some_iff.mp h).1

section Climb

variable {fuel : Nat} {passed way : List Int} {result : Option String × List String}

theorem reached?_of_source?_eq_none (hx : passed.getLast? = some x) (hv : c.source? x = none) :
    c.reached? passed = none := by
  simp [reached?, exit?, hx, hv]

theorem reached?_of_source? (hx : passed.getLast? = some x) (hv : c.source? x = some v) :
    c.reached? passed = if v ∈ passed then none else c.systems.get? v := by
  by_cases hmem : v ∈ passed <;> simp [reached?, exit?, hx, hv, Option.filter_some, hmem]

theorem climb_none (c : Classifications) (fuel : Nat) (seen : List Int) :
    c.climb fuel seen none = (none, []) := by
  cases fuel <;> rfl

/-- A climb goes on only through a reference that is no system and was not passed. -/
theorem climb_stop {seen : List Int} (fuel : Nat)
    (h : v ∈ seen ∨ (c.systems.get? v).isSome = true ∨ c.references.get? v = none) :
    c.climb (fuel + 1) seen (some v) =
      ((if v ∈ seen then none else c.systems.get? v).map (·.name), []) := by
  simp only [climb, List.contains_iff_mem]
  by_cases hseen : v ∈ seen
  · simp only [if_pos hseen, Option.map_none]
  · simp only [if_neg hseen]
    cases hs : c.systems.get? v with
    | some s => rfl
    | none =>
      have hr : c.references.get? v = none := by simpa [hseen, hs] using h
      simp only [hr, Option.map_none]

theorem climb_reference {seen : List Int} {r : ClassificationReference} (fuel : Nat)
    (hseen : v ∉ seen) (hs : c.systems.get? v = none) (hr : c.references.get? v = some r) :
    c.climb (fuel + 1) seen (some v) =
      ((c.climb fuel (v :: seen) r.source).1,
        (c.climb fuel (v :: seen) r.source).2 ++ [r.code]) := by
  simp only [climb, List.contains_iff_mem, if_neg hseen, hs, hr]

/-- The result of a climb from what was passed so far names the system that the whole walk ends at,
and has the codes of the references passed on the way, the farthest one first. -/
structure ClimbsTo (c : Classifications) (id : Int) (passed way : List Int)
    (result : Option String × List String) : Prop where
  walk : IsWalk c.above? id (passed ++ way)
  system : result.1 = (c.reached? (passed ++ way)).map (·.name)
  codes : result.2.map some = way.reverse.map c.code?

theorem ClimbsTo.stop {system : Option String} (ht : Trail c.above? id passed)
    (hx : passed.getLast? = some x) (hend : ∀ y, c.above? x = some y → y ∈ passed)
    (hs : system = (c.reached? passed).map (·.name)) : c.ClimbsTo id passed [] (system, []) := by
  refine ⟨?_, ?_, rfl⟩
  · rw [List.append_nil]
    exact .of_getLast? ht hx hend
  · rwa [List.append_nil]

theorem ClimbsTo.cons {r : ClassificationReference} (h : c.ClimbsTo id (passed ++ [v]) way result)
    (hr : c.references.get? v = some r) :
    c.ClimbsTo id passed (v :: way) (result.1, result.2 ++ [r.code]) := by
  obtain ⟨hwalk, hsystem, hcodes⟩ := h
  rw [List.append_assoc, List.singleton_append] at hwalk hsystem
  refine ⟨hwalk, hsystem, ?_⟩
  simp [hcodes, code?, hr]

theorem climbsTo_of_source?_eq_none (ht : Trail c.above? id passed)
    (hx : passed.getLast? = some x) (hv : c.source? x = none) (fuel : Nat) (seen : List Int) :
    c.ClimbsTo id passed [] (c.climb fuel seen (c.source? x)) := by
  rw [hv, climb_none]
  refine .stop ht hx (fun y hy => ?_) (by rw [reached?_of_source?_eq_none hx hv]; rfl)
  simp [(above?_eq_some_iff.mp hy).1] at hv

/-- No step is left out for want of fuel: there are more steps left than references that can come. -/
theorem exists_climbsTo (ht : Trail c.above? id passed) (hx : passed.getLast? = some x)
    (hf : c.references.length < fuel + passed.length) :
    ∃ way, c.ClimbsTo id passed way (c.climb fuel passed.reverse (c.source? x)) := by
  induction fuel generalizing passed x with
  | zero =>
    cases hv : c.source? x with
    | none => exact ⟨[], hv ▸ climbsTo_of_source?_eq_none ht hx hv _ _⟩
    | some v =>
      have hle := ht.length_le (fun _ _ => mem_keys_of_above?) hx (mem_keys_of_source? hv)
      rw [OrderedMap.keys, List.length_map] at hle
      omega
  | succ fuel ih =>
    cases hv : c.source? x with
    | none => exact ⟨[], hv ▸ climbsTo_of_source?_eq_none ht hx hv _ _⟩
    | some v =>
      by_cases hexit : v ∈ passed ∨ (c.systems.get? v).isSome = true ∨ c.references.get? v = none
      · rw [climb_stop fuel (by simpa using hexit)]
        refine ⟨[], .stop ht hx (fun y hy => ?_) ?_⟩
        · obtain ⟨hvy, hs, hr⟩ := above?_eq_some_iff.mp hy
          obtain rfl := Option.some.inj (hv.symm.trans hvy)
          simpa [hs, Option.isSome_iff_ne_none.mp hr] using hexit
        · simp only [reached?_of_source? hx hv, List.mem_reverse]
      · simp only [not_or, Option.not_isSome_iff_eq_none] at hexit
        obtain ⟨hmem, hs, hr⟩ := hexit
        obtain ⟨r, hr⟩ := Option.ne_none_iff_exists'.mp hr
        have habove : c.above? x = some v := above?_eq_some_iff.mpr ⟨hv, hs, by rw [hr]; rfl⟩
        have hnext := ht.append_singleton hx habove hmem
        obtain ⟨way, hway⟩ := ih hnext List.getLast?_concat (by simp; omega)
        rw [List.reverse_append, source?_of_get? hr] at hway
        rw [climb_reference fuel (by simpa using hmem) hs hr]
        exact ⟨v :: way, hway.cons hr⟩

end Climb

section Resolved

variable {visited : List Int}

/-- The walk from a reference: the references visited, the exit, and what both say of the
classification that the reference is resolved to. -/
structure Resolves (c : Classifications) (id : Int) (visited : List Int) (k : Classification) :
    Prop where
  walk : IsWalk c.above? id visited
  ends : ∀ v, c.exit? visited = some v →
    v ∈ visited ∨ (c.systems.get? v).isSome = true ∨ c.references.get? v = none
  path : k.path.map some = visited.reverse.map c.code?
  /-- The id that the walk started from was visited, and is not taken for that of a system. -/
  system : ∀ v s, c.exit? visited = some v → v ≠ id → c.systems.get? v = some s →
    k.system = s.name
  unknown : (∀ v, c.exit? visited = some v → v = id ∨ c.systems.get? v = none) →
    k.system = "Unknown System"

theorem ends_of_isWalk (h : IsWalk c.above? id visited) (hv : c.exit? visited = some v) :
    v ∈ visited ∨ (c.systems.get? v).isSome = true ∨ c.references.get? v = none := by
  obtain ⟨x, hx, hxv⟩ := Option.bind_eq_some_iff.mp hv
  cases hs : c.systems.get? v with
  | some s => exact .inr (.inl rfl)
  | none =>
    cases hr : c.references.get? v with
    | none => exact .inr (.inr rfl)
    | some r => exact .inl (h.ends x v hx (above?_eq_some_iff.mpr ⟨hxv, hs, by rw [hr]; rfl⟩))

/-- No system is visited, unless the walk started from its id. -/
theorem eq_of_system_mem (h : IsWalk c.above? id visited) (hv : v ∈ visited)
    (hs : (c.systems.get? v).isSome = true) : v = id := by
  rcases (h.mem_iff.mp hv).cases_tail with heq | ⟨x, -, hx⟩
  · exact heq
  · simp [(above?_eq_some_iff.mp hx).2.1] at hs

theorem reached?_eq_some (h : IsWalk c.above? id visited) {s : ClassificationSystem}
    (hv : c.exit? visited = some v) (hid : v ≠ id) (hs : c.systems.get? v = some s) :
    c.reached? visited = some s := by
  have hmem : v ∉ visited := fun hmem => hid (eq_of_system_mem h hmem (by rw [hs]; rfl))
  simp [reached?, hv, Option.filter_some, hmem, hs]

theorem reached?_eq_none (h : IsWalk c.above? id visited)
    (hv : ∀ v, c.exit? visited = some v → v = id ∨ c.systems.get? v = none) :
    c.reached? visited = none := by
  cases he : c.exit? visited with
  | none => simp [reached?, he]
  | some v =>
    rcases hv v he with rfl | hs
    · have hmem : v ∈ visited := h.mem_iff.mpr .refl
      simp [reached?, he, Option.filter_some, hmem]
    · by_cases hmem : v ∈ visited <;> simp [reached?, he, Option.filter_some, hmem, hs]

theorem resolve?_of_get? {r : ClassificationReference} (hr : c.references.get? id = some r) :
    c.resolve? id = some
      { system := (c.climb (c.references.length + 1) [id] r.source).1.getD "Unknown System"
        code := r.code
        name := (nonempty? r.name).getD r.code
        path := (c.climb (c.references.length + 1) [id] r.source).2 ++ [r.code] } := by
  rw [resolve?, hr]
  rfl

/-- Whatever the sources are, the walk from a reference ends: at a system, without a source, at an
id that is unknown, or at one that was visited, that of the reference itself among them. The path
has the codes of the references visited, each of these once and the farthest one first. -/
theorem resolve?_walks (c : Classifications) (id : Int) (r : ClassificationReference)
    (hr : c.references.get? id = some r) :
    ∃ k, c.resolve? id = some k ∧ k.code = r.code ∧ ∃! visited, c.Resolves id visited k := by
  have hlast : [id].getLast? = some id := rfl
  have hfuel : c.references.length < c.references.length + 1 + [id].length := by
    rw [List.length_singleton]
    omega
  have hclimb : ∃ way, c.ClimbsTo id [id] way (c.climb (c.references.length + 1) [id] r.source) :=
    source?_of_get? hr ▸ exists_climbsTo (.singleton c.above? id) hlast hfuel
  obtain ⟨way, hwalk, hsystem, hcodes⟩ := hclimb
  rw [List.singleton_append] at hwalk hsystem
  refine ⟨_, resolve?_of_get? hr, rfl, id :: way, ⟨hwalk, fun _ => ends_of_isWalk hwalk, ?_,
    fun v s hv hid hs => ?_, fun hv => ?_⟩, fun other h => h.walk.unique hwalk⟩
  · simp [hcodes, code?, hr]
  · simp [hsystem, reached?_eq_some hwalk hv hid hs]
  · simp [hsystem, reached?_eq_none hwalk hv]

/-- A circle of two references, of which one has the id of a system, and a reference below it. -/
def circled : Classifications where
  systems := [(1, ⟨"Uniclass 2015", none⟩)]
  references := [(1, ⟨"EF", none, some 2⟩), (2, ⟨"EF_25", none, some 1⟩),
    (3, ⟨"EF_25_10", some "Walls", some 2⟩)]
  byElement := []

theorem circled_resolve?_walks :
    circled.references.get? 3 = some ⟨"EF_25_10", some "Walls", some 2⟩ ∧
      ∃! visited, circled.Resolves 3 visited
        ⟨"Uniclass 2015", "EF_25_10", "Walls", ["EF_25", "EF_25_10"]⟩ := by
  obtain ⟨k, hk, -, hwalk⟩ := resolve?_walks circled 3 _ rfl
  obtain rfl := Option.some.inj hk
  exact ⟨rfl, hwalk⟩

/-- The walk from the reference that has the id of the system ends there, and names no system. -/
theorem circled_unknown_system :
    IsWalk circled.above? 1 [1, 2] ∧ circled.exit? [1, 2] = some 1 ∧
      circled.systems.get? 1 = some ⟨"Uniclass 2015", none⟩ ∧
      circled.resolve? 1 = some ⟨"Unknown System", "EF", "EF", ["EF_25", "EF"]⟩ := by
  have htrail : Trail circled.above? 1 [1, 2] := ⟨rfl, .cons_cons rfl (.singleton 2), by decide⟩
  have hend : circled.above? 2 = none := rfl
  refine ⟨.of_getLast? htrail (x := 2) rfl fun y hy => ?_, rfl, rfl, rfl⟩
  simp [hend] at hy

end Resolved

end BuildingQuery.Classifications
