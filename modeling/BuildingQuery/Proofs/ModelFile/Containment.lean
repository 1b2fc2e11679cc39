import BuildingQuery.ModelFile.Input
import BuildingQuery.Proofs.Index.Located
import BuildingQuery.Proofs.ModelFile.Relationships

/-! The containers of a model file. Parents may lead in a circle: the way up from an entity ends
where an entity would come again. Each product is listed once at each level, by the nearest
container on its way up. -/

namespace BuildingQuery

/-- The containers without the storeys that elements are assigned to. -/
def Containment.unassigned (c : Containment) : Containment := { c with storeyOf := [] }

namespace ModelFile

/-- Going up from parent to parent past what was visited, to an entity that has no parent, or whose
parent was visited. -/
inductive Climbs (f : ModelFile) : (visited : List Int) → FileEntity → List FileEntity → Prop where
  | top {visited : List Int} {e : FileEntity} (h : f.parent? e = none) : Climbs f visited e []
  | again {visited : List Int} {e up : FileEntity} (h : f.parent? e = some up)
      (hv : up.id ∈ visited) : Climbs f visited e []
  | up {visited : List Int} {e up : FileEntity} {way : List FileEntity} (h : f.parent? e = some up)
      (hv : up.id ∉ visited) (hw : Climbs f (up.id :: visited) up way) :
      Climbs f visited e (up :: way)

def WayUp (f : ModelFile) (e : FileEntity) (way : List FileEntity) : Prop := f.Climbs [e.id] e way

/-- The first entity of exactly one class on the way up from another. -/
def Nearest (f : ModelFile) (className : String) (e c : FileEntity) : Prop :=
  c.className = className ∧ ∃ below beyond, f.WayUp e (below ++ c :: beyond) ∧
    ∀ b ∈ below, b.className ≠ className

/-- Products are grouped by the nearest entity of a class, each of them once and none by itself. -/
structure GroupsNearest (f : ModelFile) (className : String) (groups : OrderedMap Int (List Int)) :
    Prop where
  keys : groups.keys.Nodup
  lists_iff : ∀ c p, Lists groups c p ↔
    ∃ e ∈ f.ofClass "IfcProduct", e.id = p ∧ ∃ b, f.Nearest className e b ∧ b.id = c
  once : (groups.flatMap (·.2)).Nodup
  apart : ∀ c, ¬ Lists groups c c

variable {f : ModelFile} {e up : FileEntity} {visited : List Int} {way : List FileEntity}

section Way

/-- The ids of the file that were not visited. -/
def unvisited (f : ModelFile) (visited : List Int) : List Int :=
  (f.entities.map (·.id)).filter fun id => !visited.contains id

theorem mem_ids_of_parent? (h : f.parent? e = some up) : up.id ∈ f.entities.map (·.id) := by
  have hreferred {r : FileEntity} {name : String} (hr : f.referred? r name = some up) :
      up ∈ f.entities := by
    obtain ⟨id, -, hid⟩ := Option.bind_eq_some_iff.mp hr
    exact List.mem_of_find?_eq_some hid
  have hup : up ∈ f.entities := by
    simp only [parent?] at h
    split at h
    · exact hreferred h
    · obtain ⟨r, -, hr⟩ := Option.bind_eq_some_iff.mp h
      exact hreferred hr
  exact List.mem_map_of_mem hup

theorem mem_unvisited {id : Int} :
    id ∈ f.unvisited visited ↔ id ∈ f.entities.map (·.id) ∧ id ∉ visited := by
  simp [unvisited]

theorem length_unvisited_cons {id : Int} (h : id ∈ f.unvisited visited) :
    (f.unvisited (id :: visited)).length < (f.unvisited visited).length := by
  have hfilter : f.unvisited (id :: visited) = (f.unvisited visited).filter (· != id) := by
    rw [unvisited, unvisited, List.filter_filter]
    refine List.filter_congr fun k _ => ?_
    by_cases hk : k = id <;> simp [hk]
  rw [hfilter, List.length_filter_lt_length_iff_exists]
  exact ⟨id, h, by simp⟩

/-- No step is left out for want of fuel: each of them visits one more entity of the file. -/
theorem climbs_above {fuel : Nat} (h : (f.unvisited visited).length ≤ fuel) :
    f.Climbs visited e (f.above fuel visited e) := by
  induction fuel generalizing visited e with
  | zero =>
    cases hp : f.parent? e with
    | none => exact .top hp
    | some up =>
      -- Nothing of the file is left to visit, and the parent is of the file.
      have hnil := List.eq_nil_of_length_eq_zero (Nat.le_zero.mp h)
      have hv : up.id ∈ visited := by
        by_contra hv
        have hmem := mem_unvisited.mpr ⟨mem_ids_of_parent? hp, hv⟩
        simp [hnil] at hmem
      exact .again hp hv
  | succ fuel ih =>
    rw [above]
    cases hp : f.parent? e with
    | none => exact .top hp
    | some up =>
      by_cases hv : up.id ∈ visited
      · simp only [List.contains_iff_mem, hv, if_true]
        exact .again hp hv
      · have hless := length_unvisited_cons (mem_unvisited.mpr ⟨mem_ids_of_parent? hp, hv⟩)
        simp only [List.contains_iff_mem, hv, if_false]
        exact .up hp hv (ih (by omega))

theorem wayUp_containers (f : ModelFile) (e : FileEntity) : f.WayUp e (f.containers e) := by
  refine climbs_above ?_
  have hle := List.length_filter_le (fun id => !List.contains [e.id] id) (f.entities.map (·.id))
  rwa [List.length_map] at hle

theorem Climbs.unique {way' : List FileEntity} (h : f.Climbs visited e way)
    (h' : f.Climbs visited e way') : way = way' := by
  induction h generalizing way' with
  | top hp =>
    cases h' with
    | top => rfl
    | again => rfl
    | up hp' => simp [hp] at hp'
  | again hp hv =>
    cases h' with
    | top => rfl
    | again => rfl
    | up hp' hv' =>
      obtain rfl := Option.some.inj (hp.symm.trans hp')
      exact absurd hv hv'
  | up hp hv _ ih =>
    cases h' with
    | top hp' => simp [hp] at hp'
    | again hp' hv' =>
      obtain rfl := Option.some.inj (hp.symm.trans hp')
      exact absurd hv' hv
    | up hp' _ hw' =>
      obtain rfl := Option.some.inj (hp.symm.trans hp')
      rw [ih hw']

theorem existsUnique_wayUp (f : ModelFile) (e : FileEntity) : ∃! way, f.WayUp e way :=
  ⟨f.containers e, wayUp_containers f e, fun _ h => h.unique (wayUp_containers f e)⟩

theorem Climbs.not_visited (h : f.Climbs visited e way) : ∀ b ∈ way, b.id ∉ visited := by
  induction h with
  | top => simp
  | again => simp
  | up _ hv _ ih =>
    refine List.forall_mem_cons.mpr ⟨hv, fun b hb hmem => ?_⟩
    exact ih b hb (List.mem_cons_of_mem _ hmem)

theorem nearest_iff {className : String} {c : FileEntity} : f.Nearest className e c ↔
    (f.containers e).find? (·.className == className) = some c := by
  have hway {way : List FileEntity} : f.WayUp e way ↔ f.containers e = way := by
    constructor
    · exact fun h => (wayUp_containers f e).unique h
    · rintro rfl
      exact wayUp_containers f e
  simp only [Nearest, hway, List.find?_eq_some_iff_append, beq_iff_eq, Bool.not_eq_true',
    beq_eq_false_iff_ne]

theorem Nearest.id_ne {className : String} {c : FileEntity} (h : f.Nearest className e c) :
    c.id ≠ e.id := by
  obtain ⟨-, below, beyond, hway, -⟩ := h
  simpa using hway.not_visited c (by simp)

end Way

section Groups

variable {className : String}

theorem mem_placements {p c : Int} : (p, c) ∈ f.placements className ↔
    ∃ e ∈ f.ofClass "IfcProduct", e.id = p ∧ ∃ b, f.Nearest className e b ∧ b.id = c := by
  simp only [placements, List.mem_filterMap, Option.map_eq_some_iff, nearest_iff, Prod.mk.injEq]
  constructor
  · rintro ⟨e, he, b, hb, rfl, rfl⟩
    exact ⟨e, he, rfl, b, hb, rfl⟩
  · rintro ⟨e, he, rfl, b, hb, rfl⟩
    exact ⟨e, he, b, hb, rfl, rfl⟩

theorem keys_placements_sublist (f : ModelFile) (className : String) :
    (OrderedMap.keys (f.placements className)).Sublist ((f.ofClass "IfcProduct").map (·.id)) := by
  refine OrderedMap.keys_filterMap_sublist (fun e p hp => ?_) _
  obtain ⟨c, -, rfl⟩ := Option.map_eq_some_iff.mp hp
  rfl

theorem nodup_placements (h : (f.entities.map (·.id)).Nodup) (className : String) :
    (OrderedMap.keys (f.placements className)).Nodup := by
  have hproducts : ((f.ofClass "IfcProduct").map (·.id)).Nodup :=
    ((ofClass_perm f _).map _).nodup_iff.mpr (h.sublist (List.filter_sublist.map _))
  exact hproducts.sublist (keys_placements_sublist f className)

theorem lists_placed {c p : Int} :
    Lists (f.placed className) c p ↔ (p, c) ∈ f.placements className := by
  rw [placed, lists_foldl_push]
  simp [Lists, OrderedMap.get?]

theorem groupsNearest_placed (h : (f.entities.map (·.id)).Nodup) (className : String) :
    f.GroupsNearest className (f.placed className) where
  keys := OrderedMap.nodup_foldl_push (m := []) List.nodup_nil _
  lists_iff c p := lists_placed.trans mem_placements
  once := by
    have hperm := OrderedMap.flatMap_foldl_push_perm [] (f.placements className)
    exact hperm.nodup_iff.mpr (nodup_placements h className)
  apart c hc := by
    obtain ⟨e, -, hid, b, hb, hc⟩ := mem_placements.mp (lists_placed.mp hc)
    exact hb.id_ne (hc.trans hid.symm)

end Groups

section Storeys

variable (h : (f.entities.map (·.id)).Nodup)

include h

theorem storeyOf_eq_some_iff {p s : Int} :
    f.containment.storeyOf.get? p = some s ↔ Lists f.containment.byStorey s p := by
  have hn : f.containment.storeyOf.keys.Nodup := nodup_placements h _
  rw [OrderedMap.get?_eq_some_iff hn]
  exact lists_placed.symm

theorem firstListing_byStorey (p : Int) :
    firstListing f.containment.byStorey p = f.containment.storeyOf.get? p := by
  have hkeys : f.containment.byStorey.keys.Nodup := (groupsNearest_placed h _).keys
  cases hs : firstListing f.containment.byStorey p with
  | some s => exact ((storeyOf_eq_some_iff h).mpr (lists_of_firstListing hkeys hs)).symm
  | none =>
    have hnot := (firstListing_eq_none_iff hkeys).mp hs
    cases hp : f.containment.storeyOf.get? p with
    | none => rfl
    | some s => exact absurd ((storeyOf_eq_some_iff h).mp hp) (hnot s)

/-- The storeys to which elements are assigned are those that list them. -/
theorem location_unassigned (g : EntityGraph) (p : Int) :
    (f.containment.placements g).location p =
      (f.containment.unassigned.placements g).location p := by
  have hn : f.containment.storeyOf.keys.Nodup := nodup_placements h _
  have hn' : f.containment.unassigned.storeyOf.keys.Nodup := List.nodup_nil
  have hstorey : f.containment.storey? p = f.containment.unassigned.storey? p := by
    have hlisted := firstListing_byStorey h p
    rw [Containment.storey?, hlisted, Option.or_self]
    exact hlisted.symm
  rw [Containment.location_placements hn, Containment.location_placements hn', hstorey]
  rfl

end Storeys

/-- Whether parents lead in a circle or not, there is one way up from each entity. Each product is
listed at each level, once, by the nearest container on its way up, if there is one. The storeys to
which products are assigned are those that list them, and give no place that these do not give. -/
theorem containment_nearest (f : ModelFile) (h : (f.entities.map (·.id)).Nodup) :
    (∀ e, ∃! way, f.WayUp e way) ∧
      f.GroupsNearest "IfcBuildingStorey" f.containment.byStorey ∧
      f.GroupsNearest "IfcBuilding" f.containment.byBuilding ∧
      f.GroupsNearest "IfcSite" f.containment.bySite ∧
      f.GroupsNearest "IfcSpace" f.containment.bySpace ∧
      (∀ p s, f.containment.storeyOf.get? p = some s ↔ Lists f.containment.byStorey s p) ∧
      ∀ i : Input, i.containment = some f.containment → ∀ hier,
        i.locations hier =
          { i with containment := some f.containment.unassigned }.locations hier := by
  refine ⟨existsUnique_wayUp f, groupsNearest_placed h _, groupsNearest_placed h _,
    groupsNearest_placed h _, groupsNearest_placed h _, fun _ _ => storeyOf_eq_some_iff h,
    fun i hi hier => Input.locations_congr ?_ (fun id => ?_) hier⟩
  · rfl
  · simp only [Input.placements, hi, Option.map_some, Option.getD_some]
    exact location_unassigned h i.graph id

section Example

/-- A wall in a storey that is a part of its building, of which the building is a part. -/
def loopedStorey : ModelFile where
  schema := Ifc2x3.schema
  entities := [
    ⟨1, "IfcWall", []⟩,
    ⟨2, "IfcBuilding", []⟩,
    ⟨3, "IfcBuildingStorey", []⟩,
    ⟨4, "IfcRelContainedInSpatialStructure",
      [("RelatingStructure", .reference 3), ("RelatedElements", .list [.reference 1])]⟩,
    ⟨5, "IfcRelAggregates",
      [("RelatingObject", .reference 2), ("RelatedObjects", .list [.reference 3])]⟩,
    ⟨6, "IfcRelAggregates",
      [("RelatingObject", .reference 3), ("RelatedObjects", .list [.reference 2])]⟩]

def loopedLineage (e : FileEntity) : List String :=
  match e.className with
  | "IfcWall" => ["IfcRoot", "IfcObjectDefinition", "IfcObject", "IfcProduct", "IfcElement",
    "IfcBuildingElement", "IfcWall"]
  | "IfcBuilding" => ["IfcRoot", "IfcObjectDefinition", "IfcObject", "IfcProduct",
    "IfcSpatialStructureElement", "IfcBuilding"]
  | "IfcBuildingStorey" => ["IfcRoot", "IfcObjectDefinition", "IfcObject", "IfcProduct",
    "IfcSpatialStructureElement", "IfcBuildingStorey"]
  | "IfcRelAggregates" => ["IfcRoot", "IfcRelationship", "IfcRelDecomposes", "IfcRelAggregates"]
  | _ => ["IfcRoot", "IfcRelationship", "IfcRelConnects", "IfcRelContainedInSpatialStructure"]

theorem ancestry_loopedStorey :
    ∀ e ∈ loopedStorey.entities, loopedStorey.ancestry e = loopedLineage e := by
  decide +kernel

theorem ofClass_loopedStorey (className : String) : loopedStorey.ofClass className =
    loopedStorey.entities.filter fun e => (loopedLineage e).contains className :=
  ofClass_of_lineage ancestry_loopedStorey (by decide) className

theorem placements_loopedStorey :
    loopedStorey.placements "IfcBuildingStorey" = [(1, 3), (2, 3)] ∧
      loopedStorey.placements "IfcBuilding" = [(1, 2), (3, 2)] := by
  simp only [placements, ofClass_loopedStorey]
  decide +kernel

def loopedInput : Input where
  graph := loopedStorey.graph
  containment := some loopedStorey.containment

end Example

/-- The building is listed by its storey, and the storey by the building, and neither by itself. -/
theorem containment_nearest_loopedStorey :
    (loopedStorey.entities.map (·.id)).Nodup ∧
      (∃! way, loopedStorey.WayUp ⟨1, "IfcWall", []⟩ way) ∧
      Lists loopedStorey.containment.byStorey 3 1 ∧
      Lists loopedStorey.containment.byStorey 3 2 ∧
      ¬ Lists loopedStorey.containment.byStorey 3 3 ∧
      Lists loopedStorey.containment.byBuilding 2 3 ∧
      ¬ Lists loopedStorey.containment.byBuilding 2 2 ∧
      loopedInput.locations Ifc2x3.schema.hierarchy =
        { loopedInput with containment := some loopedStorey.containment.unassigned }.locations
          Ifc2x3.schema.hierarchy := by
  have hn : (loopedStorey.entities.map (·.id)).Nodup := by decide
  obtain ⟨hstorey, hbuilding⟩ := placements_loopedStorey
  obtain ⟨hway, hstoreys, hbuildings, -, -, hassigned, hplaces⟩ :=
    containment_nearest loopedStorey hn
  refine ⟨hn, hway _, (hassigned 1 3).mp ?_, (hassigned 2 3).mp ?_, hstoreys.apart 3,
    lists_placed.mpr ?_, hbuildings.apart 2, hplaces loopedInput rfl _⟩
  · rw [containment, hstorey]
    rfl
  · rw [containment, hstorey]
    rfl
  · rw [hbuilding]
    simp

end ModelFile

end BuildingQuery
