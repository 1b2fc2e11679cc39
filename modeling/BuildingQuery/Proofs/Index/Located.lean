import BuildingQuery.Proofs.Index.Coherence

/-! The places of the records of an index, as the containers of the input give them. -/

namespace BuildingQuery

section Decoded

open Checked Decoder

theorem Containment.keys_nodup_of_decoder {v : Value} {c : Containment}
    (h : Containment.decoder v = .ok c) : c.storeyOf.keys.Nodup := by
  cases v <;> simp only [Containment.decoder, record, fail, reduceCtorEq] at h
  case map fs =>
    obtain ⟨f₁, _, h₁, -, rfl⟩ := seq_eq_ok.mp h
    obtain ⟨f₂, _, h₂, hstoreyOf, rfl⟩ := seq_eq_ok.mp h₁
    obtain ⟨f₃, _, h₃, -, rfl⟩ := seq_eq_ok.mp h₂
    obtain ⟨f₄, _, h₄, -, rfl⟩ := seq_eq_ok.mp h₃
    obtain ⟨f₅, _, h₅, -, rfl⟩ := seq_eq_ok.mp h₄
    obtain ⟨f₆, _, h₆, -, rfl⟩ := seq_eq_ok.mp h₅
    obtain ⟨_, -, rfl⟩ := map_eq_ok.mp h₆
    exact Decoder.keys_nodup_of_optional_map hstoreyOf

/-- No element of a document is assigned to two storeys. -/
theorem Input.storeyOf_nodup_of_decoder {v : Value} {i : Input} (h : Input.decoder v = .ok i) :
    ∀ c, i.containment = some c → c.storeyOf.keys.Nodup := by
  obtain ⟨fs, -, -, -, hc⟩ := Input.parts_of_decoder h
  intro c hsome
  rcases Decoder.eq_none_or_of_optional_orNothing hc with hnone | ⟨_, a, ha, hcontainment⟩
  · simp [hnone] at hsome
  · rw [hcontainment, Option.some.injEq] at hsome
    exact hsome ▸ Containment.keys_nodup_of_decoder ha

end Decoded

/-- A place is made of names of the containers that an element is in, each level by itself. -/
structure Containment.Places (c : Containment) (g : EntityGraph) (id : Int) (l : Location) :
    Prop where
  storey : l.storey = (c.storey? id).map (g.containerName "Storey")
  /-- The elevation is that of the storey that gives the name. -/
  storeyElevation : l.storeyElevation = (c.storey? id).bind c.storeyElevations.get?
  building : l.building = (firstListing c.byBuilding id).map (g.containerName "Building")
  site : l.site = (firstListing c.bySite id).map (g.containerName "Site")
  space : l.space = (firstListing c.bySpace id).map (g.containerName "Space")
  project : l.project = c.project.bind (·.name)

namespace Input

/-- The places of the elements of an index. -/
def locations (i : Input) (h : Hierarchy) : OrderedMap Int Location :=
  (i.index h).elements.mapValues (·.location)

theorem locations_foldl (i : Input) (h : Hierarchy) (places : Placements) (joins : Joins)
    (es : List (Int × Entity)) (ix : Index) :
    (es.foldl (i.step h places joins) ix).elements.mapValues (·.location) =
      es.foldl (fun m p => if isProduct h p.2 then m.put p.1 (places.location p.1) else m)
        (ix.elements.mapValues (·.location)) := by
  induction es generalizing ix with
  | nil => rfl
  | cons p es ih =>
    have hstep : (i.step h places joins ix p).elements.mapValues (·.location) =
        if isProduct h p.2 then (ix.elements.mapValues (·.location)).put p.1 (places.location p.1)
        else ix.elements.mapValues (·.location) := by
      rw [step]
      split
      · exact OrderedMap.mapValues_put _ _ _ _
      · rfl
    rw [List.foldl_cons, ih, hstep, List.foldl_cons]

/-- The places of the elements depend on the input only by the entities and by what its containers
say of each of them. -/
theorem locations_congr {i j : Input} (hg : i.graph = j.graph)
    (hp : ∀ id, i.placements.location id = j.placements.location id) (h : Hierarchy) :
    i.locations h = j.locations h := by
  rw [locations, locations, index, index, locations_foldl, locations_foldl, hg]
  simp only [hp]

/-- Every element is where the containers say, and nowhere if there are none. -/
theorem elements_placed (i : Input) (h : Hierarchy)
    (hs : ∀ c, i.containment = some c → c.storeyOf.keys.Nodup) :
    ∀ e ∈ (i.index h).records,
      (i.containment = none → e.location = {}) ∧
        ∀ c, i.containment = some c → c.Places i.graph e.id e.location := by
  intro e he
  obtain ⟨p, -, rfl⟩ := mem_records_index he
  constructor
  · intro hnone
    simp [record, placements, hnone, Placements.location, OrderedMap.get?]
  · intro c hc
    have hplace : (i.record h i.placements (Joins.of (i.relationships.getD [])) p.1 p.2).location =
        (c.placements i.graph).location p.1 := by
      simp [record, placements, hc]
    rw [hplace, Containment.location_placements (hs c hc)]
    exact ⟨rfl, rfl, rfl, rfl, rfl, rfl⟩

/-- A wall that is assigned to a storey without an elevation while two others list it, and a door
that both of these list. -/
def listedTwice : Input where
  graph := {
    entities := [
      (4, ⟨4, "IfcWall", .positional []⟩),
      (2, ⟨2, "IfcDoor", .positional []⟩),
      (31, ⟨31, "IfcBuildingStorey", .positional [.null, .null, .str "Level 1"]⟩)]
    idsByType := [] }
  containment := some {
    storeyOf := [(4, 30)]
    byStorey := [(31, [4, 2]), (32, [2, 2, 4])]
    storeyElevations := [(31, 3), (32, 6)]
    byBuilding := [(20, [2]), (21, [4, 2])]
    project := some ⟨1, some "Tower"⟩ }

theorem elements_placed_listedTwice :
    (∀ c, listedTwice.containment = some c → c.storeyOf.keys.Nodup) ∧
      (listedTwice.index wallsAndDoors).ids = [4, 2] ∧
      ∀ e ∈ (listedTwice.index wallsAndDoors).records,
        (e.id = 4 → e.location.storey = some "Storey 30" ∧ e.location.storeyElevation = none ∧
          e.location.building = some "Building 21") ∧
        (e.id = 2 → e.location.storey = some "Level 1" ∧ e.location.storeyElevation = some 3 ∧
          e.location.building = some "Building 20") := by
  have hs : ∀ c, listedTwice.containment = some c → c.storeyOf.keys.Nodup := by
    rintro _ ⟨rfl⟩
    decide
  refine ⟨hs, by decide +kernel, fun e he => ?_⟩
  have hplace := (elements_placed listedTwice wallsAndDoors hs e he).2 _ rfl
  constructor
  · intro hid
    rw [hid] at hplace
    exact ⟨hplace.storey, hplace.storeyElevation, hplace.building⟩
  · intro hid
    rw [hid] at hplace
    exact ⟨hplace.storey, hplace.storeyElevation, hplace.building⟩

end Input

end BuildingQuery
