import BuildingQuery.Proofs.Index.Keys
import BuildingQuery.Proofs.Index.Records
import BuildingQuery.Proofs.Pattern
import BuildingQuery.Proofs.Pattern.Splits

/-! In which set a property or a quantity is found. Sets are searched alike by a pattern with
wildcards. A name without wildcards is the very name of a set of properties, but a pattern for sets
of quantities, which can also be written in another case. -/

namespace BuildingQuery

open Pattern

variable {α β : Type}

/-- The first set that passes the test and has a member of the name. -/
def firstWith (sets : OrderedMap String (OrderedMap String α)) (passes : String → Bool)
    (name : String) : Option String :=
  (sets.find? fun s => passes s.1 && s.2.keys.contains name).map (·.1)

/-- Two maps of sets have the same sets in the same order, with the same names in them. -/
def SameNames (ps : OrderedMap String (OrderedMap String α))
    (qs : OrderedMap String (OrderedMap String β)) : Prop :=
  ps.map (fun s => (s.1, s.2.keys)) = qs.map fun s => (s.1, s.2.keys)

/-- What is found is a member of the given set; without a set nothing is found. -/
def FoundIn (sets : OrderedMap String (OrderedMap String α)) (name : String) (found : Option α)
    (set : Option String) : Prop :=
  found = set.bind (memberOf sets · name) ∧ found.isSome = set.isSome

section Sets

variable {sets : OrderedMap String (OrderedMap String α)}
  {ps : OrderedMap String (OrderedMap String α)} {qs : OrderedMap String (OrderedMap String β)}

theorem SameNames.firstWith_eq (h : SameNames ps qs) (passes : String → Bool) (name : String) :
    firstWith ps passes name = firstWith qs passes name := by
  have hnames {γ : Type} (sets : OrderedMap String (OrderedMap String γ)) :
      firstWith sets passes name =
        ((sets.map fun s => (s.1, s.2.keys)).find? fun s => passes s.1 && s.2.contains name).map
          (·.1) := by
    rw [firstWith, List.find?_map, Option.map_map]
    rfl
  rw [hnames, hnames, h]

theorem SameNames.keys_eq (h : SameNames ps qs) : ps.keys = qs.keys := by
  have hkeys := congrArg (List.map (·.1)) h
  rwa [List.map_map, List.map_map] at hkeys

theorem isSome_get? (m : OrderedMap String α) (name : String) :
    (m.get? name).isSome = m.keys.contains name := by
  rw [Bool.eq_iff_iff, List.contains_iff_mem, OrderedMap.isSome_get?_iff]

theorem findSome?_eq_find?_bind (f : α → Option β) (as : List α) :
    as.findSome? f = (as.find? fun a => (f a).isSome).bind f := by
  induction as with
  | nil => rfl
  | cons a as ih =>
    rw [List.findSome?_cons, List.find?_cons]
    cases h : f a with
    | none => exact ih
    | some b => exact h.symm

theorem memberOf_of_mem (h : sets.keys.Nodup) {s : String × OrderedMap String α} (hs : s ∈ sets)
    (name : String) : memberOf sets s.1 name = OrderedMap.get? s.2 name := by
  rw [memberOf, (OrderedMap.get?_eq_some_iff h).mpr hs, Option.bind_some]

/-- What is found first is a member of the first set to have one. -/
theorem foundIn_firstWith (h : sets.keys.Nodup) (passes : String → Bool) (name : String) :
    FoundIn sets name
      (sets.findSome? fun s => if passes s.1 then OrderedMap.get? s.2 name else none)
      (firstWith sets passes name) := by
  have htest : (fun s : String × OrderedMap String α =>
      (if passes s.1 then OrderedMap.get? s.2 name else none).isSome) =
        fun s => passes s.1 && s.2.keys.contains name := by
    funext s
    cases hs : passes s.1 <;> simp [isSome_get?]
  rw [FoundIn, findSome?_eq_find?_bind, htest, firstWith]
  cases hf : sets.find? fun s => passes s.1 && s.2.keys.contains name with
  | none => exact ⟨rfl, rfl⟩
  | some s =>
    have hs := List.find?_some hf
    rw [Bool.and_eq_true, ← isSome_get?] at hs
    rw [Option.map_some, Option.bind_some, Option.bind_some, if_pos hs.1,
      memberOf_of_mem h (List.mem_of_find?_eq_some hf)]
    exact ⟨rfl, hs.2⟩

theorem memberOf_eq_findSome? (h : sets.keys.Nodup) (set name : String) :
    memberOf sets set name =
      sets.findSome? fun s => if s.1 == set then OrderedMap.get? s.2 name else none := by
  induction sets with
  | nil => rfl
  | cons s sets ih =>
    obtain ⟨hnew, hrest⟩ := List.nodup_cons.mp h
    rw [List.findSome?_cons, memberOf, OrderedMap.get?_cons, BEq.comm]
    by_cases hs : (s.1 == set) = true
    · obtain rfl := beq_iff_eq.mp hs
      -- No other set has the name.
      have hnone : (sets.findSome? fun t => if t.1 == s.1 then OrderedMap.get? t.2 name else none) =
          none := by
        rw [List.findSome?_eq_none_iff]
        intro t ht
        exact if_neg fun heq => hnew (List.mem_map.mpr ⟨t, ht, beq_iff_eq.mp heq⟩)
      rw [hnone, if_pos hs, if_pos hs, Option.bind_some]
      cases OrderedMap.get? s.2 name <;> rfl
    · rw [if_neg hs, if_neg hs]
      exact ih hrest

theorem exists_of_firstWith {passes : String → Bool} {name k : String}
    (h : firstWith sets passes name = some k) :
    passes k = true ∧ ∃ members, (k, members) ∈ sets ∧ name ∈ members.keys := by
  obtain ⟨s, hs, rfl⟩ := Option.map_eq_some_iff.mp h
  have hpass := List.find?_some hs
  rw [Bool.and_eq_true, List.contains_iff_mem] at hpass
  exact ⟨hpass.1, s.2, List.mem_of_find?_eq_some hs, hpass.2⟩

theorem isSome_firstWith (passes : String → Bool) {name k : String} (hpass : passes k = true)
    {members : OrderedMap String α} (hk : (k, members) ∈ sets) (hname : name ∈ members.keys) :
    (firstWith sets passes name).isSome = true := by
  rw [firstWith, Option.isSome_map, List.find?_isSome]
  refine ⟨(k, members), hk, ?_⟩
  rw [Bool.and_eq_true, List.contains_iff_mem]
  exact ⟨hpass, hname⟩

theorem firstWith_named_iff {set name s : String} : firstWith sets (· == set) name = some s ↔
    s = set ∧ ∃ members, (set, members) ∈ sets ∧ name ∈ members.keys := by
  constructor
  · intro h
    obtain ⟨hs, hmem⟩ := exists_of_firstWith h
    obtain rfl := beq_iff_eq.mp hs
    exact ⟨rfl, hmem⟩
  · rintro ⟨rfl, members, hs, hname⟩
    obtain ⟨t, ht⟩ := Option.isSome_iff_exists.mp
      (isSome_firstWith (· == s) (beq_self_eq_true s) hs hname)
    obtain rfl := beq_iff_eq.mp (exists_of_firstWith ht).1
    exact ht

end Sets

namespace Element

/-- The set that a property is found in. -/
def propertySet? (e : Element) (set name : String) : Option String :=
  if hasWildcard set then firstWith e.properties (accepts set) name
  else firstWith e.properties (· == set) name

/-- The set that a quantity is found in. -/
def quantitySet? (e : Element) (set name : String) : Option String :=
  firstWith e.quantities (accepts set) name

variable {e : Element}

theorem star_or_accepts (set s : String) : (set == "*" || accepts set s) = accepts set s := by
  cases hset : set == "*" with
  | false => rfl
  | true =>
    obtain rfl := beq_iff_eq.mp hset
    have hstar : accepts "*" s = true := by
      rw [accepts, if_pos (by decide), glob_star]
    rw [hstar]
    rfl

theorem property?_foundIn (h : e.properties.keys.Nodup) (set name : String) :
    FoundIn e.properties name (e.property? set name) (e.propertySet? set name) := by
  cases hw : hasWildcard set with
  | false =>
    rw [propertySet?, hw, if_neg Bool.false_ne_true, property?_of_hasWildcard hw,
      memberOf_eq_findSome? h]
    exact foundIn_firstWith h (· == set) name
  | true =>
    have hsearch : (set == "*" || hasWildcard set) = true := by rw [hw, Bool.or_true]
    rw [propertySet?, if_pos hw, property?, if_pos hsearch]
    simp only [star_or_accepts]
    exact foundIn_firstWith h (accepts set) name

theorem quantity?_foundIn (h : e.quantities.keys.Nodup) (set name : String) :
    FoundIn e.quantities name (e.quantity? (some set) name) (e.quantitySet? set name) := by
  have htest (s : String) : (meansAll (some set) || (some set).any (accepts · s)) = accepts set s :=
    star_or_accepts set s
  simp only [quantity?, htest]
  exact foundIn_firstWith h (accepts set) name

theorem quantitySet?_eq (h : SameNames e.properties e.quantities) (set name : String) :
    e.quantitySet? set name = firstWith e.properties (accepts set) name :=
  (h.firstWith_eq (accepts set) name).symm

section Plain

variable {set name s : String}

theorem propertySet?_eq_some_iff (hw : hasWildcard set = false) :
    e.propertySet? set name = some s ↔
      s = set ∧ ∃ members, (set, members) ∈ e.properties ∧ name ∈ members.keys := by
  rw [propertySet?, hw, if_neg Bool.false_ne_true, firstWith_named_iff]

theorem isSome_quantitySet? (hsame : SameNames e.properties e.quantities)
    (hw : hasWildcard set = false) (h : (e.propertySet? set name).isSome = true) :
    (e.quantitySet? set name).isSome = true := by
  obtain ⟨s, hs⟩ := Option.isSome_iff_exists.mp h
  obtain ⟨-, members, hset, hname⟩ := (propertySet?_eq_some_iff hw).mp hs
  rw [quantitySet?_eq hsame]
  exact isSome_firstWith (accepts set) (accepts_self set) hset hname

theorem propertySet?_eq_quantitySet?_iff (hsame : SameNames e.properties e.quantities)
    (hw : hasWildcard set = false) : e.propertySet? set name = e.quantitySet? set name ↔
      e.quantitySet? set name = none ∨ e.quantitySet? set name = some set := by
  constructor
  · intro heq
    cases hset : e.quantitySet? set name with
    | none => exact .inl rfl
    | some s =>
      obtain ⟨rfl, -⟩ := (propertySet?_eq_some_iff hw).mp (heq.trans hset)
      exact .inr rfl
  · rintro (hnone | hset)
    · rw [hnone, ← Option.not_isSome_iff_eq_none]
      intro h
      have hsome := isSome_quantitySet? hsame hw h
      rw [hnone] at hsome
      exact Bool.false_ne_true hsome
    · rw [hset]
      rw [quantitySet?_eq hsame] at hset
      exact (propertySet?_eq_some_iff hw).mpr ⟨rfl, (exists_of_firstWith hset).2⟩

end Plain

/-- Properties and quantities with the same names in the same sets are found in the same set by a
pattern with wildcards. Without wildcards a property is found in the set of that very name, and a
quantity in the first set of the same lower form that has it; then the two are found in the same set
unless the quantity is found in a set written in another way. -/
theorem sets_searched (hsame : SameNames e.properties e.quantities)
    (honce : e.properties.keys.Nodup) (set name : String) :
    FoundIn e.properties name (e.property? set name) (e.propertySet? set name) ∧
    FoundIn e.quantities name (e.quantity? (some set) name) (e.quantitySet? set name) ∧
    (hasWildcard set = true → e.propertySet? set name = e.quantitySet? set name ∧
      (e.property? set name).isSome = (e.quantity? (some set) name).isSome) ∧
    (hasWildcard set = false →
      (∀ s, e.propertySet? set name = some s ↔
        s = set ∧ ∃ members, (set, members) ∈ e.properties ∧ name ∈ members.keys) ∧
      e.quantitySet? set name =
        firstWith e.quantities (fun s => Text.lower s == Text.lower set) name ∧
      ((e.property? set name).isSome = true → (e.quantity? (some set) name).isSome = true) ∧
      (e.propertySet? set name = e.quantitySet? set name ↔
        e.quantitySet? set name = none ∨ e.quantitySet? set name = some set)) := by
  have hp := property?_foundIn honce set name
  have hq := quantity?_foundIn (hsame.keys_eq ▸ honce) set name
  refine ⟨hp, hq, fun hw => ?_, fun hw => ⟨fun s => propertySet?_eq_some_iff hw, ?_, fun h => ?_,
    propertySet?_eq_quantitySet?_iff hsame hw⟩⟩
  · have hset : e.propertySet? set name = e.quantitySet? set name := by
      rw [propertySet?, if_pos hw, quantitySet?_eq hsame]
    exact ⟨hset, by rw [hp.2, hq.2, hset]⟩
  · have haccepts : accepts set = fun s => Text.lower s == Text.lower set := by
      funext s
      rw [accepts, hw, if_neg Bool.false_ne_true]
    rw [quantitySet?, haccepts]
  · rw [hp.2] at h
    rw [hq.2, isSome_quantitySet? hsame hw h]

def measuredWall : Element :=
  { Element.plain 1 "IfcWall" with
    properties := [("Pset_WallCommon", [("Width", ⟨.number, .float 0.25, none⟩)])]
    quantities := [("Pset_WallCommon", [("Width", 0.25)])] }

theorem sets_searched_measuredWall :
    SameNames measuredWall.properties measuredWall.quantities ∧
      measuredWall.properties.keys.Nodup ∧
      hasWildcard "pset_*" = true ∧ hasWildcard "Pset_WallCommon" = false ∧
      measuredWall.propertySet? "pset_*" "Width" = some "Pset_WallCommon" ∧
      (measuredWall.property? "Pset_WallCommon" "Width").isSome = true ∧
      (measuredWall.quantity? (some "Pset_WallCommon") "Width").isSome = true := by
  have hsame : SameNames measuredWall.properties measuredWall.quantities := rfl
  have honce : measuredWall.properties.keys.Nodup := by decide
  have hwild : hasWildcard "pset_*" = true := by decide
  have hplain : hasWildcard "Pset_WallCommon" = false := by decide
  obtain ⟨-, -, hset, -⟩ := sets_searched hsame honce "pset_*" "Width"
  obtain ⟨-, -, -, hnamed⟩ := sets_searched hsame honce "Pset_WallCommon" "Width"
  have hquantity : measuredWall.quantitySet? "pset_*" "Width" = some "Pset_WallCommon" := by
    decide +kernel
  have hproperty : (measuredWall.property? "Pset_WallCommon" "Width").isSome = true := by
    decide +kernel
  exact ⟨hsame, honce, hwild, hplain, (hset hwild).1.trans hquantity, hproperty,
    (hnamed hplain).2.2.1 hproperty⟩

/-- By a name in another case the quantity is found, but not the property of the same set. -/
theorem recased_set_finds_quantity_only :
    SameNames measuredWall.properties measuredWall.quantities ∧
      (measuredWall.property? "pset_wallcommon" "Width").isSome = false ∧
      (measuredWall.quantity? (some "pset_wallcommon") "Width").isSome = true := by
  refine ⟨rfl, ?_, ?_⟩ <;> decide +kernel

end Element

end BuildingQuery
