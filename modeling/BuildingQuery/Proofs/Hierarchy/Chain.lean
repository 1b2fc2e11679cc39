import BuildingQuery.Proofs.Hierarchy
import BuildingQuery.Proofs.Walk

/-! The ancestry of a type, read from its own name upwards: the walk from supertype to supertype
along the table, whatever the table says. Names are looked up in any case only once, at the start of
the walk; on the way up they are taken as they are written. -/

namespace BuildingQuery.Hierarchy

variable {h : Hierarchy} {s t up name : String}

theorem mem_keys_of_parent? (hup : h.parent? name = some up) : name ∈ h.parents.keys := by
  rw [parent?, Option.join_eq_some_iff] at hup
  exact List.mem_map.mpr ⟨_, OrderedMap.mem_of_get? hup, rfl⟩

/-- What was climbed so far goes on to a walk: there are more steps left than names that can come. -/
theorem isWalk_climb {fuel : Nat} {start : String} {passed : List String}
    (ht : Trail h.parent? start passed) (hlast : passed.getLast? = some name)
    (hup : h.parent? name = some up) (hf : h.parents.length < fuel + passed.length) :
    IsWalk h.parent? start (passed ++ h.climb fuel passed.reverse up) := by
  induction fuel generalizing passed name up with
  | zero =>
    have hle := ht.length_le (fun _ _ => mem_keys_of_parent?) hlast (mem_keys_of_parent? hup)
    rw [OrderedMap.keys, List.length_map] at hle
    omega
  | succ fuel ih =>
    rw [climb]
    by_cases hmem : up ∈ passed
    · have hstop : passed.reverse.contains up = true := by simpa using hmem
      rw [if_pos hstop, List.append_nil]
      refine .of_getLast? ht hlast fun y hy => ?_
      obtain rfl := Option.some.inj (hup.symm.trans hy)
      exact hmem
    · have hgo : ¬ passed.reverse.contains up = true := by simpa using hmem
      have hnext := ht.append_singleton hlast hup hmem
      rw [if_neg hgo]
      cases htop : h.parent? up with
      | none => exact .of_getLast? hnext List.getLast?_concat fun y hy => by simp [htop] at hy
      | some top =>
        have hwalk := ih hnext List.getLast?_concat htop (by simp; omega)
        simpa using hwalk

/-- Read upwards, the ancestry of a name is the walk along the table that starts at the name. -/
theorem isWalk_ancestry (h : Hierarchy) (name : String) :
    IsWalk h.parent? name (h.ancestry name).reverse := by
  rw [ancestry, List.reverse_reverse, climb]
  cases hup : h.parent? name with
  | none => exact .of_getLast? (.singleton _ _) rfl fun y hy => by simp [hup] at hy
  | some up => exact isWalk_climb (.singleton _ _) rfl hup (by simp)

theorem isWalk_chain (h : Hierarchy) (t : String) :
    IsWalk h.parent? (h.resolve t) (h.chain t).reverse := h.isWalk_ancestry _

theorem mem_chain_iff : s ∈ h.chain t ↔
    Relation.ReflTransGen (fun name up => h.parent? name = some up) (h.resolve t) s := by
  rw [← List.mem_reverse, (h.isWalk_chain t).mem_iff]

theorem isSubtype_iff {a : String} :
    h.isSubtype t a = true ↔ ∃ name ∈ h.chain t, Text.upper name = Text.upper a := by
  simp [isSubtype, List.any_eq_true]

theorem upper_resolve (h : Hierarchy) (t : String) : Text.upper (h.resolve t) = Text.upper t := by
  cases ht : h.contains t with
  | false => rw [resolve_of_not_contains ht]
  | true =>
    obtain ⟨c, -, hc⟩ := exists_find?_of_contains ht
    rw [resolve, hc, Option.getD_some]
    simpa using List.find?_some hc

theorem chain_resolve (h : Hierarchy) (t : String) : h.chain (h.resolve t) = h.chain t := by
  rw [chain, chain, resolve_resolve]

/-- The names of an ancestry, from the most general one down to the name of the type as the table
writes it: each is the direct supertype of the one after it, and none comes twice. The first has no
supertype, or one that is among the names. -/
structure IsChain (h : Hierarchy) (t : String) (names : List String) : Prop where
  last : names.getLast? = some (h.resolve t)
  supertypes : names.IsChain fun up name => h.parent? name = some up
  nodup : names.Nodup
  first : ∀ name up, names.head? = some name → h.parent? name = some up → up ∈ names

theorem isChain_iff_isWalk {names : List String} :
    h.IsChain t names ↔ IsWalk h.parent? (h.resolve t) names.reverse := by
  constructor
  · rintro ⟨last, supertypes, nodup, first⟩
    refine ⟨⟨?_, ?_, ?_⟩, fun name up hname hup => ?_⟩
    · rwa [List.head?_reverse]
    · rwa [List.isChain_reverse]
    · rwa [List.nodup_reverse]
    · rw [List.getLast?_reverse] at hname
      exact List.mem_reverse.mpr (first name up hname hup)
  · rintro ⟨⟨head, steps, nodup⟩, ends⟩
    refine ⟨?_, ?_, ?_, fun name up hname hup => ?_⟩
    · rwa [List.head?_reverse] at head
    · rwa [List.isChain_reverse] at steps
    · rwa [List.nodup_reverse] at nodup
    · exact List.mem_reverse.mp (ends name up (by rwa [List.getLast?_reverse]) hup)

theorem isChain_iff {names : List String} : h.IsChain t names ↔ names = h.chain t := by
  rw [isChain_iff_isWalk]
  constructor
  · intro hwalk
    exact List.reverse_injective (hwalk.unique (h.isWalk_chain t))
  · rintro rfl
    exact h.isWalk_chain t

/-- In every table, with circles in it or not, the climb from a type ends after no more steps than
there are names and one, and its names are the only ones that lead up from supertype to supertype,
up to a name without one or to the first that would come again. -/
theorem chain_climbs (h : Hierarchy) (t : String) :
    (∀ names, h.IsChain t names ↔ names = h.chain t) ∧
      (h.chain t).length ≤ h.size + 1 ∧
      Text.upper (h.resolve t) = Text.upper t ∧
      (h.contains t = true → h.resolve t ∈ h.parents.keys) ∧
      (h.contains t = false → h.resolve t = t ∧ h.chain t = [t]) ∧
      h.resolve (h.resolve t) = h.resolve t ∧
      h.chain (h.resolve t) = h.chain t ∧
      ∀ a, h.isSubtype t a = true ↔ ∃ name ∈ h.chain t, Text.upper name = Text.upper a := by
  refine ⟨fun _ => isChain_iff, ?_, h.upper_resolve t, resolve_mem_of_contains, fun ht => ?_,
    h.resolve_resolve t, h.chain_resolve t, fun _ => isSubtype_iff⟩
  · have hle := (h.isWalk_chain t).length_le_succ fun _ _ => mem_keys_of_parent?
    rwa [List.length_reverse, OrderedMap.keys, List.length_map] at hle
  · exact ⟨resolve_of_not_contains ht, chain_of_not_contains ht⟩

/-- A circle through two spellings of one name. -/
example : (Hierarchy.mk [("A", some "b"), ("B", some "A"), ("b", some "B")]).chain "a" =
    ["B", "b", "A"] := by decide +kernel

end BuildingQuery.Hierarchy
