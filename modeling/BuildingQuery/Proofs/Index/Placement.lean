import BuildingQuery.Proofs.Index.Build

/-! Where the elements of an index stand. The places of all elements are filled in by one container
after the other; read off for one element they are the storey it is assigned to, or else the first
that lists it, and the first building, site and space that list it. -/

namespace BuildingQuery

/-- The first container that lists an element. -/
def firstListing (groups : OrderedMap Int (List Int)) (id : Int) : Option Int :=
  (groups.find? fun g => g.2.contains id).map (·.1)

/-- A container lists an element. -/
def Lists (groups : OrderedMap Int (List Int)) (container id : Int) : Prop :=
  ∃ ids, groups.get? container = some ids ∧ id ∈ ids

/-- The storey that an element is assigned to, or else the first that lists it. -/
def Containment.storey? (c : Containment) (id : Int) : Option Int :=
  (c.storeyOf.get? id).or (firstListing c.byStorey id)

theorem firstListing_cons (g : Int × List Int) (groups : OrderedMap Int (List Int)) (id : Int) :
    firstListing (g :: groups) id = if id ∈ g.2 then some g.1 else firstListing groups id := by
  by_cases hid : id ∈ g.2 <;> simp [firstListing, hid]

section Lists

variable {groups : OrderedMap Int (List Int)} {c id : Int}

theorem lists_iff_mem (h : groups.keys.Nodup) :
    Lists groups c id ↔ ∃ g ∈ groups, g.1 = c ∧ id ∈ g.2 := by
  constructor
  · rintro ⟨ids, hget, hid⟩
    exact ⟨_, OrderedMap.mem_of_get? hget, rfl, hid⟩
  · rintro ⟨g, hg, rfl, hid⟩
    exact ⟨g.2, (OrderedMap.get?_eq_some_iff h).mpr hg, hid⟩

theorem lists_of_firstListing (h : groups.keys.Nodup) (hf : firstListing groups id = some c) :
    Lists groups c id := by
  obtain ⟨g, hg, rfl⟩ := Option.map_eq_some_iff.mp hf
  have hid := List.find?_some hg
  exact (lists_iff_mem h).mpr ⟨g, List.mem_of_find?_eq_some hg, rfl, by simpa using hid⟩

theorem firstListing_eq_none_iff (h : groups.keys.Nodup) :
    firstListing groups id = none ↔ ∀ c, ¬ Lists groups c id := by
  simp only [firstListing, Option.map_eq_none_iff, List.find?_eq_none, List.contains_iff_mem,
    lists_iff_mem h]
  constructor
  · rintro hnone c ⟨g, hg, -, hid⟩
    exact hnone g hg hid
  · exact fun hnone g hg hid => hnone g.1 ⟨g, hg, rfl, hid⟩

theorem lists_push {k x : Int} : Lists (groups.push k x) c id ↔
    Lists groups c id ∨ (id, c) = (x, k) := by
  by_cases hc : c = k
  · subst hc
    cases hget : groups.get? c <;> simp [Lists, OrderedMap.get?_push_self, hget]
  · simp [Lists, OrderedMap.get?_push_of_ne _ _ hc, hc]

/-- Elements that are put one by one under their containers are listed there. -/
theorem lists_foldl_push {ps : List (Int × Int)} :
    Lists (ps.foldl (fun m p => m.push p.2 p.1) groups) c id ↔
      Lists groups c id ∨ (id, c) ∈ ps := by
  induction ps generalizing groups with
  | nil => simp
  | cons p ps ih => rw [List.foldl_cons, ih, lists_push, List.mem_cons, or_assoc]

end Lists

namespace Placements

/-- What is filled in for an element. -/
def placeOf (m : OrderedMap Int Location) (id : Int) : Location := (m.get? id).getD {}

/-- After one container the others change nothing. -/
def Settles (f : Int → Location → Location) : Prop := ∀ a b l, f b (f a l) = f a l

variable {m : OrderedMap Int Location} {f : Location → Location} {id : Int}

theorem placeOf_fill (m : OrderedMap Int Location) (k : Int) (f : Location → Location) (id : Int) :
    placeOf (fill m k f) id = if id = k then f (placeOf m id) else placeOf m id := by
  by_cases hk : id = k
  · subst hk
    rw [if_pos rfl, placeOf, fill, OrderedMap.get?_put_self, Option.getD_some, placeOf]
  · rw [if_neg hk, placeOf, fill, OrderedMap.get?_put_of_ne _ _ hk, placeOf]

theorem placeOf_fillEach (hf : ∀ l, f (f l) = f l) (m : OrderedMap Int Location) (ids : List Int) :
    placeOf (ids.foldl (fun m k => fill m k f) m) id =
      if id ∈ ids then f (placeOf m id) else placeOf m id := by
  induction ids generalizing m with
  | nil => simp
  | cons k ids ih =>
    rw [List.foldl_cons, ih, placeOf_fill]
    by_cases hk : id = k
    · by_cases hids : id ∈ ids <;> simp [hk, hf]
    · simp [hk]

/-- The container that takes effect is the first that lists the element. -/
theorem placeOf_fillAll {f : Int → Location → Location} (hf : Settles f)
    (m : OrderedMap Int Location) (groups : OrderedMap Int (List Int)) (id : Int) :
    placeOf (fillAll f m groups) id =
      (firstListing groups id).elim (placeOf m id) (f · (placeOf m id)) := by
  induction groups generalizing m with
  | nil => rfl
  | cons g groups ih =>
    have hcons : fillAll f m (g :: groups) =
        fillAll f (g.2.foldl (fun m k => fill m k (f g.1)) m) groups := rfl
    rw [hcons, ih, placeOf_fillEach (hf g.1 g.1), firstListing_cons]
    by_cases hid : id ∈ g.2
    · rw [if_pos hid, if_pos hid, Option.elim_some]
      cases firstListing groups id with
      | none => rfl
      | some b => exact hf g.1 b _
    · rw [if_neg hid, if_neg hid]

theorem placeOf_assigned {f : Int → Location → Location} (m : OrderedMap Int Location)
    {assigned : OrderedMap Int Int} (h : assigned.keys.Nodup) (id : Int) :
    placeOf (assigned.foldl (fun m p => fill m p.1 (f p.2)) m) id =
      (assigned.get? id).elim (placeOf m id) (f · (placeOf m id)) := by
  induction assigned generalizing m with
  | nil => rfl
  | cons p assigned ih =>
    obtain ⟨hp, hn⟩ : p.1 ∉ OrderedMap.keys assigned ∧ (OrderedMap.keys assigned).Nodup := by
      simpa [OrderedMap.keys] using h
    rw [List.foldl_cons, ih _ hn, placeOf_fill, OrderedMap.get?_cons]
    by_cases hid : id = p.1
    · subst hid
      simp [OrderedMap.get?_of_not_mem hp]
    · have hb : (id == p.1) = false := by simpa using hid
      rw [if_neg hid, hb, if_neg Bool.false_ne_true]

theorem fillAll_congr {f f' : Int → Location → Location} {groups : OrderedMap Int (List Int)}
    (h : ∀ id ∈ groups.keys, ∀ l, f id l = f' id l) (m : OrderedMap Int Location) :
    fillAll f m groups = fillAll f' m groups := by
  refine List.foldl_ext _ _ m fun m g hg => ?_
  rw [funext (h g.1 (List.mem_map_of_mem hg))]

section Preserved

variable {P : Location → Prop}

theorem forall_fill (hf : ∀ l, P l → P (f l)) (hm : ∀ id, P (placeOf m id)) (k : Int) :
    ∀ id, P (placeOf (fill m k f) id) := by
  intro id
  rw [placeOf_fill]
  split
  · exact hf _ (hm id)
  · exact hm id

theorem forall_foldl {α : Type} {step : OrderedMap Int Location → α → OrderedMap Int Location}
    (hs : ∀ m a, (∀ id, P (placeOf m id)) → ∀ id, P (placeOf (step m a) id)) (as : List α)
    (hm : ∀ id, P (placeOf m id)) : ∀ id, P (placeOf (as.foldl step m) id) := by
  induction as generalizing m with
  | nil => exact hm
  | cons a as ih => exact ih (hs m a hm)

theorem forall_fillAll {f : Int → Location → Location} (hf : ∀ k l, P l → P (f k l))
    (hm : ∀ id, P (placeOf m id)) (groups : OrderedMap Int (List Int)) :
    ∀ id, P (placeOf (fillAll f m groups) id) :=
  forall_foldl (fun _ g hm => forall_foldl (fun _ k hm => forall_fill (hf g.1) hm k) g.2 hm)
    groups hm

theorem forall_assigned {f : Int → Location → Location} (hf : ∀ k l, P l → P (f k l))
    (hm : ∀ id, P (placeOf m id)) (assigned : OrderedMap Int Int) :
    ∀ id, P (placeOf (assigned.foldl (fun m p => fill m p.1 (f p.2)) m) id) :=
  forall_foldl (fun _ p hm => forall_fill (hf p.2) hm p.1) assigned hm

end Preserved

end Placements

namespace Containment

open Placements

variable {c : Containment} {g : EntityGraph}

theorem settles_listStorey : Settles (c.listStorey g) := by
  intro a b l
  by_cases hl : l.storey.isSome <;> simp [listStorey, assignStorey, hl]

theorem settles_listBuilding : Settles (listBuilding g) := by
  intro a b l
  cases hl : l.building <;> simp [listBuilding, hl]

theorem settles_listSite : Settles (listSite g) := by
  intro a b l
  cases hl : l.site <;> simp [listSite, hl]

theorem settles_listSpace : Settles (listSpace g) := by
  intro a b l
  cases hl : l.space <;> simp [listSpace, hl]

/-- The storey and its elevation are settled before the other containers come. -/
theorem placeOf_storeys (h : c.storeyOf.keys.Nodup) (id : Int) :
    placeOf (fillAll (c.listStorey g)
        (c.storeyOf.foldl (fun m p => fill m p.1 (c.assignStorey g p.2)) []) c.byStorey) id =
      { storey := (c.storey? id).map (g.containerName "Storey")
        storeyElevation := (c.storey? id).bind c.storeyElevations.get? } := by
  have hempty : placeOf [] id = {} := rfl
  rw [placeOf_fillAll settles_listStorey, placeOf_assigned [] h, hempty, storey?]
  cases c.storeyOf.get? id with
  | some s =>
    cases firstListing c.byStorey id <;> simp [assignStorey, listStorey]
  | none => cases firstListing c.byStorey id <;> simp [assignStorey, listStorey]

theorem location_placements (h : c.storeyOf.keys.Nodup) (id : Int) :
    (c.placements g).location id =
      { project := c.project.bind (·.name)
        site := (firstListing c.bySite id).map (g.containerName "Site")
        building := (firstListing c.byBuilding id).map (g.containerName "Building")
        storey := (c.storey? id).map (g.containerName "Storey")
        space := (firstListing c.bySpace id).map (g.containerName "Space")
        storeyElevation := (c.storey? id).bind c.storeyElevations.get? } := by
  have hplace : placeOf (c.placements g).locations id =
      { site := (firstListing c.bySite id).map (g.containerName "Site")
        building := (firstListing c.byBuilding id).map (g.containerName "Building")
        storey := (c.storey? id).map (g.containerName "Storey")
        space := (firstListing c.bySpace id).map (g.containerName "Space")
        storeyElevation := (c.storey? id).bind c.storeyElevations.get? } := by
    simp only [placements, placeOf_fillAll settles_listSpace, placeOf_fillAll settles_listSite,
      placeOf_fillAll settles_listBuilding, placeOf_storeys h]
    cases firstListing c.bySpace id <;> cases firstListing c.bySite id <;>
      cases firstListing c.byBuilding id <;> rfl
  exact congrArg (fun l : Location => { l with project := c.project.bind (·.name) }) hplace

/-- The containers whose names the places of elements are made of. -/
def containerIds (c : Containment) : List Int :=
  c.storeyOf.values ++ c.byStorey.keys ++ c.byBuilding.keys ++ c.bySite.keys ++ c.bySpace.keys

/-- Of the entities the places depend on nothing but the names of the containers. -/
theorem placements_congr {g g' : EntityGraph}
    (h : ∀ id ∈ c.containerIds, ∀ kind, g.containerName kind id = g'.containerName kind id) :
    c.placements g = c.placements g' := by
  simp only [containerIds, List.mem_append, or_imp, forall_and] at h
  obtain ⟨⟨⟨⟨hassigned, hstorey⟩, hbuilding⟩, hsite⟩, hspace⟩ := h
  have assigned : ∀ m, c.storeyOf.foldl (fun m p => fill m p.1 (c.assignStorey g p.2)) m =
      c.storeyOf.foldl (fun m p => fill m p.1 (c.assignStorey g' p.2)) m := by
    intro m
    refine List.foldl_ext _ _ m fun m p hp => ?_
    have hl : ∀ l, c.assignStorey g p.2 l = c.assignStorey g' p.2 l := by
      intro l
      rw [assignStorey, assignStorey, hassigned p.2 (List.mem_map_of_mem hp)]
    rw [funext hl]
  have listed : ∀ m, fillAll (c.listStorey g) m c.byStorey =
      fillAll (c.listStorey g') m c.byStorey :=
    fillAll_congr fun id hid l => by
      rw [listStorey, listStorey, assignStorey, assignStorey, hstorey id hid]
  have inBuilding : ∀ m, fillAll (listBuilding g) m c.byBuilding =
      fillAll (listBuilding g') m c.byBuilding :=
    fillAll_congr fun id hid l => by rw [listBuilding, listBuilding, hbuilding id hid]
  have onSite : ∀ m, fillAll (listSite g) m c.bySite = fillAll (listSite g') m c.bySite :=
    fillAll_congr fun id hid l => by rw [listSite, listSite, hsite id hid]
  have inSpace : ∀ m, fillAll (listSpace g) m c.bySpace = fillAll (listSpace g') m c.bySpace :=
    fillAll_congr fun id hid l => by rw [listSpace, listSpace, hspace id hid]
  simp only [placements, assigned, listed, inBuilding, onSite, inSpace]

/-- A container has no empty name. -/
def StoreyNamed (l : Location) : Prop := l.storey ≠ some ""

theorem storeyNamed_assignStorey (id : Int) (l : Location) :
    StoreyNamed (c.assignStorey g id l) := fun h =>
  g.containerName_ne_empty "Storey" id (Option.some.inj h)

theorem storeyNamed_listStorey (id : Int) (l : Location) (h : StoreyNamed l) :
    StoreyNamed (c.listStorey g id l) := by
  rw [listStorey]
  split
  · exact h
  · exact storeyNamed_assignStorey id l

theorem storeyNamed_placements (c : Containment) (g : EntityGraph) (id : Int) :
    StoreyNamed ((c.placements g).location id) := by
  have hempty : ∀ id, StoreyNamed (placeOf [] id) := fun _ h => nomatch h
  have hassigned := forall_assigned (f := c.assignStorey g)
    (fun k l _ => storeyNamed_assignStorey k l) hempty c.storeyOf
  have hlisted := forall_fillAll (f := c.listStorey g) storeyNamed_listStorey hassigned c.byStorey
  have hbuilding := forall_fillAll (f := listBuilding g) (fun _ _ hl => hl) hlisted c.byBuilding
  have hsite := forall_fillAll (f := listSite g) (fun _ _ hl => hl) hbuilding c.bySite
  exact forall_fillAll (f := listSpace g) (fun _ _ hl => hl) hsite c.bySpace id

end Containment

end BuildingQuery
