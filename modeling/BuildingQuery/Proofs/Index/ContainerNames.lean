import BuildingQuery.Condition.Evaluate
import BuildingQuery.Proofs.Index.Located

/-! The names of containers. A container that is an element itself has a name in its record, and one
in the places of the elements in it. Only the record may take its name from those given beside the
entities; the places number a container that brings no name. -/

namespace BuildingQuery

/-- The name that an entity brings itself, if it is not empty. -/
def EntityGraph.ownName? (g : EntityGraph) (id : Int) : Option String :=
  ((g.entities.get? id).bind Entity.name?).filter (· != "")

def numberedName (kind : String) (id : Int) : String := kind ++ " " ++ toString id

/-- The container that an element is placed in at a level, with its kind. The project is given by
its name. -/
def Containment.containerAt (c : Containment) (id : Int) : SpatialLevel → Option (String × Int)
  | .project => none
  | .site => (firstListing c.bySite id).map ("Site", ·)
  | .building => (firstListing c.byBuilding id).map ("Building", ·)
  | .storey => (c.storey? id).map ("Storey", ·)
  | .space => (firstListing c.bySpace id).map ("Space", ·)

theorem EntityGraph.containerName_eq (g : EntityGraph) (kind : String) (id : Int) :
    g.containerName kind id = (g.ownName? id).getD (numberedName kind id) := by
  rw [containerName, ownName?]
  cases (g.entities.get? id).bind Entity.name? with
  | none => rfl
  | some name =>
    by_cases hname : name = ""
    · rw [hname]
      rfl
    · simp [Option.filter_some, hname]

theorem Containment.Places.at_eq {c : Containment} {g : EntityGraph} {id : Int} {l : Location}
    (h : c.Places g id l) {level : SpatialLevel} {k : String × Int}
    (hk : c.containerAt id level = some k) : l.at level = some (g.containerName k.1 k.2) := by
  cases level with
  | project => nomatch hk
  | _ =>
    obtain ⟨s, hs, rfl⟩ := Option.map_eq_some_iff.mp hk
    simp only [Location.at, h.site, h.building, h.storey, h.space, hs, Option.map_some]

namespace Input

variable {i : Input} {h : Hierarchy}

/-- A name that is neither missing nor empty is the own one, or else one of those given beside. -/
theorem elementName_eq {id : Int} {e : Entity} {name : String}
    (he : i.graph.entities.get? id = some e) (hn : i.elementName id e = some name)
    (hne : name ≠ "") :
    some name = (i.graph.ownName? id).or (i.names.bind (·.get? id)) := by
  have hbeside (hempty : e.name? = none ∨ e.name? = some "") :
      some name = i.names.bind (·.get? id) := by
    have hown : e.name? ≠ some name := by rcases hempty with h | h <;> simp [h, hne.symm]
    have hnames : i.elementName id e = i.names.bind (·.get? id) ∨
        i.elementName id e = e.name? := by
      rcases hempty with h | h
      all_goals
        rcases hnames : i.names with _ | _ | _
        all_goals simp [elementName, h, hnames]
    rcases hnames with h | h
    · exact hn.symm.trans h
    · exact absurd (h.symm.trans hn) hown
  rw [EntityGraph.ownName?, he, Option.bind_some]
  cases hname : e.name? with
  | none => exact hbeside (.inl hname)
  | some own =>
    by_cases hown : own = ""
    · rw [hown]
      exact hbeside (.inr (hname.trans (congrArg some hown)))
    · have hfilter : (some own).filter (· != "") = some own := by simp [Option.filter_some, hown]
      rw [hfilter]
      simpa [elementName, hname, hown, eq_comm] using hn

theorem name_of_mem_records (hn : i.graph.entities.keys.Nodup) {r : Element}
    (hr : r ∈ (i.index h).records) {name : String} (hname : r.name = some name) (hne : name ≠ "") :
    some name = (i.graph.ownName? r.id).or (i.names.bind (·.get? r.id)) := by
  obtain ⟨p, hp, rfl⟩ := mem_records_index hr
  have he : i.graph.entities.get? p.1 = some p.2 := (OrderedMap.get?_eq_some_iff hn).mpr hp
  exact elementName_eq he hname hne

/-- Where a container has one name, it makes no difference whether it is asked for by place or as
what contains the element. -/
theorem holds_spatial_eq_containedIn {ix : Index} {e r : Element} (hr : ix.get? r.id = some r)
    {level : SpatialLevel} {name : String} (hne : name ≠ "")
    (hplace : e.location.at level = some name) (hname : r.name = some name)
    (hcontained : e.relations.containedIn = some r.id) (p : String) :
    (Condition.spatial ⟨level, some p, none⟩).holds (some ix) e =
      (Condition.relation ⟨.containedIn, some ⟨none, some p⟩⟩).holds (some ix) e := by
  have hspatial : (Condition.spatial ⟨level, some p, none⟩).holds (some ix) e =
      .ok (Pattern.accepts p name) := by
    cases hp : Pattern.accepts p name <;>
      simp [Condition.holds, SpatialTest.holds, hplace, hne, hp, pure, Except.pure]
  have hrelation : (Condition.relation ⟨.containedIn, some ⟨none, some p⟩⟩).holds (some ix) e =
      .ok (Pattern.accepts p name) := by
    simp [Condition.holds, RelationTest.holds, Element.related, hcontained, RelationTarget.isOpen,
      RelationTarget.holds, hr, hname, acceptedBy, Pattern.acceptsOpt, pure, Except.pure]
  rw [hspatial, hrelation]

/-- An element is placed under the name that its container brings itself, or else under a number.
The record of the container has the same name just if it brings one, or is named like the number. -/
theorem container_named_alike_iff (i : Input) (h : Hierarchy) (hn : i.graph.entities.keys.Nodup)
    (c : Containment) (hc : i.containment = some c) (hs : c.storeyOf.keys.Nodup) :
    ∀ e ∈ (i.index h).records, ∀ r ∈ (i.index h).records, ∀ level kind,
      c.containerAt e.id level = some (kind, r.id) → ∀ name, r.name = some name → name ≠ "" →
        e.location.at level =
          some ((i.graph.ownName? r.id).getD (numberedName kind r.id)) ∧
        (e.location.at level = some name ↔
          (i.graph.ownName? r.id).isSome ∨ name = numberedName kind r.id) ∧
        (e.location.at level = some name → e.relations.containedIn = some r.id → ∀ p,
          (Condition.spatial ⟨level, some p, none⟩).holds (some (i.index h)) e =
            (Condition.relation ⟨.containedIn, some ⟨none, some p⟩⟩).holds
              (some (i.index h)) e) := by
  intro e he r hr level kind hcontainer name hname hne
  have hplaces : ∀ c', i.containment = some c' → c'.storeyOf.keys.Nodup := by
    rintro c' hc'
    obtain rfl := Option.some.inj (hc.symm.trans hc')
    exact hs
  have hplace : e.location.at level =
      some ((i.graph.ownName? r.id).getD (numberedName kind r.id)) := by
    rw [((elements_placed i h hplaces e he).2 c hc).at_eq hcontainer,
      EntityGraph.containerName_eq]
  refine ⟨hplace, ?_, fun hsame hcontained p => ?_⟩
  · have hrecord := name_of_mem_records hn hr hname hne
    rw [hplace]
    cases hown : i.graph.ownName? r.id with
    | none => simp [eq_comm]
    | some own =>
      rw [hown] at hrecord
      simpa [eq_comm] using hrecord
  · have hget : (i.index h).get? r.id = some r :=
      (index_built i h hn).tallied.keyed.get?_eq_some_iff.mpr ⟨hr, rfl⟩
    exact holds_spatial_eq_containedIn hget hne hsame hname hcontained p

def wallOnStorey : Containment where
  storeyOf := [(4, 31)]

/-- A storey that has a name beside the entities, with a wall. -/
def storeyNamedBeside (attributes : List Value) : Input where
  graph := {
    entities := [
      (31, ⟨31, "IfcBuildingStorey", .positional attributes⟩),
      (4, ⟨4, "IfcWall", .positional []⟩)]
    idsByType := [] }
  containment := some wallOnStorey
  names := some [(31, "Level 1")]

def storeysAndWalls : Hierarchy where
  parents := [("IfcProduct", none), ("IfcBuildingStorey", some "IfcProduct"),
    ("IfcWall", some "IfcProduct")]

/-- A storey that brings its name has no other. -/
theorem container_named_alike_ground :
    (storeyNamedBeside [.null, .null, .str "Ground"]).graph.entities.keys.Nodup ∧
      wallOnStorey.storeyOf.keys.Nodup ∧
      ∃ ix, ix = (storeyNamedBeside [.null, .null, .str "Ground"]).index storeysAndWalls ∧
        ∃ e ∈ ix.records, ∃ r ∈ ix.records,
          wallOnStorey.containerAt e.id .storey = some ("Storey", r.id) ∧
          r.name = some "Ground" ∧ e.location.at .storey = some "Ground" ∧
          e.relations.containedIn = some r.id ∧
          ∀ p, (Condition.spatial ⟨.storey, some p, none⟩).holds (some ix) e =
            (Condition.relation ⟨.containedIn, some ⟨none, some p⟩⟩).holds (some ix) e := by
  have hrecords : ((storeyNamedBeside [.null, .null, .str "Ground"]).index
      storeysAndWalls).records.map (fun r => (r.id, r.name, r.relations.containedIn)) =
        [(31, some "Ground", none), (4, none, some 31)] := by decide +kernel
  obtain ⟨r, hr, hstorey⟩ := List.mem_map.mp (hrecords ▸ List.mem_cons_self)
  obtain ⟨e, he, hwall⟩ := List.mem_map.mp
    (hrecords ▸ List.mem_cons_of_mem _ List.mem_cons_self)
  simp only [Prod.mk.injEq] at hstorey hwall
  obtain ⟨hstoreyId, hname, -⟩ := hstorey
  obtain ⟨hwallId, -, hcontained⟩ := hwall
  rw [← hstoreyId] at hcontained
  have hn : (storeyNamedBeside [.null, .null, .str "Ground"]).graph.entities.keys.Nodup := by
    decide
  have hs : wallOnStorey.storeyOf.keys.Nodup := by decide
  have hcontainer : wallOnStorey.containerAt e.id .storey = some ("Storey", r.id) := by
    rw [hwallId, hstoreyId]
    rfl
  obtain ⟨-, hiff, hsame⟩ := container_named_alike_iff _ storeysAndWalls hn wallOnStorey rfl hs
    e he r hr .storey "Storey" hcontainer "Ground" hname (by decide)
  have hplace : e.location.at .storey = some "Ground" := by
    refine hiff.mpr (.inl ?_)
    rw [hstoreyId]
    rfl
  exact ⟨hn, hs, _, rfl, e, he, r, hr, hcontainer, hname, hplace, hcontained,
    hsame hplace hcontained⟩

/-- A storey that brings no name has two: that of its record is not found as a place. -/
theorem storey_named_otherwise :
    ∃ ix, ix = (storeyNamedBeside []).index .products ∧
      wallOnStorey.containerAt 4 .storey = some ("Storey", 31) ∧
      ix.records.map (fun r => (r.id, r.name, r.location.at .storey)) =
        [(31, some "Level 1", none), (4, none, some "Storey 31")] ∧
      (ix.records.filter fun e =>
        ((Condition.relation ⟨.containedIn, some ⟨none, some "Level 1"⟩⟩).holds
          (some ix) e).toOption == some true).map (·.id) = [4] ∧
      (ix.records.filter fun e =>
        ((Condition.spatial ⟨.storey, some "Level 1", none⟩).holds
          (some ix) e).toOption == some true).map (·.id) = [] := by
  refine ⟨_, rfl, rfl, ?_⟩
  decide +kernel

end Input

end BuildingQuery
