import BuildingQuery.Proofs.Index.Records
import BuildingQuery.Proofs.Summary.Tally
import BuildingQuery.Summary.Sets

/-! The sets of all records under their names, and in a set what stands under the name of a member:
one value of each record that has it. -/

namespace BuildingQuery

theorem under_map_values {κ α β : Type} [DecidableEq κ] (f : α → β) (m : List (κ × α)) (k : κ) :
    under (m.map fun p => (p.1, f p.2)) k = (under m k).map f := by
  simp only [under, List.filterMap_map, List.map_filterMap]
  refine List.filterMap_congr fun p _ => ?_
  by_cases hp : p.1 = k <;> simp [hp]

section TypeNames

variable {es : List Element}

theorem typeNames_sorted (es : List Element) : (typeNames es).Pairwise (· < ·) :=
  Ordered.texts_sorted (nodup_eraseDups _)

theorem mem_typeNames {name : String} : name ∈ typeNames es ↔ ∃ e ∈ es, e.typeName = name := by
  rw [typeNames, (Ordered.texts_perm _).mem_iff, List.mem_eraseDups, List.mem_map]

end TypeNames

namespace Index

variable {α : Type} {ix : Index}

/-- The records that have a set, each with what it has of it. -/
def holders (ix : Index) (sets : Element → OrderedMap String α) (set : String) :
    List (Element × α) :=
  ix.records.filterMap fun e => ((sets e).get? set).map fun a => (e, a)

section Sets

variable {sets : Element → OrderedMap String α} {set : String} {hs : List (Element × α)}

theorem mem_map_fst_holders {e : Element} :
    e ∈ (ix.holders sets set).map (·.1) ↔ e ∈ ix.records ∧ (sets e).contains set = true := by
  simp only [holders, OrderedMap.contains, List.mem_map, List.mem_filterMap, Option.map_eq_some_iff,
    Option.isSome_iff_exists]
  grind

theorem length_holders (sets : Element → OrderedMap String α) (set : String) :
    (ix.holders sets set).length = ix.records.countP fun e => (sets e).contains set := by
  simp only [holders, List.length_filterMap_eq_countP, Option.isSome_map, OrderedMap.contains]

theorem mem_keys_setsWith :
    set ∈ (ix.setsWith sets).keys ↔ ∃ e ∈ ix.records, (sets e).contains set = true := by
  rw [setsWith, mem_keys_grouped]
  simp only [OrderedMap.contains, OrderedMap.isSome_get?_iff, OrderedMap.keys, List.mem_map,
    List.mem_flatMap]
  grind

theorem mem_setsWith (h : ∀ e ∈ ix.records, (sets e).keys.Nodup) :
    (set, hs) ∈ ix.setsWith sets ↔ hs = ix.holders sets set ∧ hs ≠ [] := by
  have hunder : under (ix.records.flatMap fun e => (sets e).map fun s => (s.1, (e, s.2))) set =
      ix.holders sets set := by
    rw [under_flatMap, holders, List.filterMap_eq_flatMap_toList]
    refine List.flatMap_congr fun e he => ?_
    rw [under_map_values, OrderedMap.under_eq (h e he), Option.toList_map]
  rw [setsWith, mem_grouped, hunder]

end Sets

/-- What the records have under the names of a set and of a member of it. -/
def valuesOf (ix : Index) (sets : Element → OrderedMap String (OrderedMap String α))
    (set name : String) : List α :=
  ix.records.filterMap fun e => memberOf (sets e) set name

section Members

variable {sets : Element → OrderedMap String (OrderedMap String α)} {set name : String} {a : α}
  {as : List α}

theorem length_valuesOf (sets : Element → OrderedMap String (OrderedMap String α))
    (set name : String) : (ix.valuesOf sets set name).length =
      ix.records.countP fun e => (memberOf (sets e) set name).isSome := by
  rw [valuesOf, List.length_filterMap_eq_countP]

theorem mem_valuesOf : a ∈ ix.valuesOf sets set name ↔
    ∃ e ∈ ix.records, memberOf (sets e) set name = some a := List.mem_filterMap

theorem valuesOf_ne_nil_iff : ix.valuesOf sets set name ≠ [] ↔
    ∃ e ∈ ix.records, (memberOf (sets e) set name).isSome = true := by
  simp only [valuesOf, ne_eq, List.filterMap_eq_nil_iff, not_forall, Option.isSome_iff_ne_none,
    exists_prop]

theorem under_flatMap_holders (h : ∀ e ∈ ix.records, SetsOnce (sets e)) (set name : String) :
    under ((ix.holders sets set).flatMap (·.2)) name = ix.valuesOf sets set name := by
  have hone : ∀ e ∈ ix.records, under (((sets e).get? set).toList.flatMap id) name =
      (memberOf (sets e) set name).toList := by
    intro e he
    rw [memberOf]
    cases hget : (sets e).get? set with
    | none => rfl
    | some m =>
      have hm : (set, m) ∈ sets e := OrderedMap.mem_of_get? hget
      have hn := (h e he).names _ hm
      simpa using OrderedMap.under_eq hn name
  rw [under_flatMap, holders, valuesOf, List.filterMap_eq_flatMap_toList,
    List.filterMap_eq_flatMap_toList, List.flatMap_assoc]
  refine List.flatMap_congr fun e he => ?_
  rw [← hone e he]
  cases (sets e).get? set with
  | none => rfl
  | some m => simp

/-- The members of a set under their names have the values that the records have there. -/
theorem mem_grouped_holders (h : ∀ e ∈ ix.records, SetsOnce (sets e)) :
    (name, as) ∈ grouped ((ix.holders sets set).flatMap (·.2)) ↔
      as = ix.valuesOf sets set name ∧ as ≠ [] := by
  rw [mem_grouped, under_flatMap_holders h]

theorem mem_keys_grouped_holders (h : ∀ e ∈ ix.records, SetsOnce (sets e)) :
    name ∈ (grouped ((ix.holders sets set).flatMap (·.2))).keys ↔
      ∃ e ∈ ix.records, (memberOf (sets e) set name).isSome = true := by
  rw [mem_keys_grouped, ← under_ne_nil_iff, under_flatMap_holders h, valuesOf_ne_nil_iff]

end Members

end Index

end BuildingQuery
