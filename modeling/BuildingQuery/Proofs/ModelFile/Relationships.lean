import BuildingQuery.ModelFile.Input
import BuildingQuery.ModelFile.Schema.Ifc2x3
import BuildingQuery.ModelFile.Schema.Ifc4
import BuildingQuery.Proofs.Index.JoinedSets
import BuildingQuery.Proofs.Index.Regrouping

/-! From the relationships of a model file to the tables of an index. They are collected by class,
with subclasses, and the tables know them by their own names. One subclass counts like its class;
two others are collected and get lost. -/

namespace BuildingQuery

/-- The class of relationships that fills a table, with the attributes that name the two sides. -/
def Join.sides : Join → String × String × String
  | definition => ("IfcRelDefinesByProperties", "RelatingPropertyDefinition", "RelatedObjects")
  | type => ("IfcRelDefinesByType", "RelatingType", "RelatedObjects")
  | containment => ("IfcRelContainedInSpatialStructure", "RelatingStructure", "RelatedElements")
  | aggregation => ("IfcRelAggregates", "RelatingObject", "RelatedObjects")
  | connection => ("IfcRelConnectsElements", "RelatingElement", "RelatedElement")
  | opening => ("IfcRelVoidsElement", "RelatingBuildingElement", "RelatedOpeningElement")
  | filling => ("IfcRelFillsElement", "RelatingOpeningElement", "RelatedBuildingElement")

/-- A class of relationships with its subclasses. -/
def relationshipKinds (className : String) : List String :=
  className :: match className with
    | "IfcRelDefinesByProperties" => ["IfcRelOverridesProperties"]
    | "IfcRelConnectsElements" =>
      ["IfcRelConnectsPathElements", "IfcRelConnectsWithRealizingElements"]
    | _ => []

/-- Subclasses that are collected, but of whose names no table knows. -/
def lostClasses : List String :=
  ["IfcRelOverridesProperties", "IfcRelConnectsWithRealizingElements"]

def FileEntity.isRead (e : FileEntity) : Bool := !lostClasses.contains e.className

namespace ModelFile

/-- Relationships of the classes that fill a table, all under the names of these classes. -/
def relationshipsByClass (f : ModelFile) (keep : FileEntity → Bool) : List Relationship :=
  relationshipSides.flatMap fun (className, relating, related) =>
    ((f.ofClass className).filter keep).flatMap fun e => (e.ids relating).map fun id =>
      ⟨Text.upper className, id, e.ids related⟩

/-- Some relationship for a table that is not lost names the one on its relating side and the other
on its related side. -/
def Ties (f : ModelFile) (k : Join) (a b : Int) : Prop :=
  ∃ r ∈ f.ofClass k.sides.1, r.isRead ∧ a ∈ r.ids k.sides.2.1 ∧ b ∈ r.ids k.sides.2.2

/-- A record has what the relationships of the file that are not lost say of it. -/
structure Joined (f : ModelFile) (i : Input) (e : Element) : Prop where
  properties : ∀ set, set ∈ e.properties.keys ↔
    ∃ d members, f.Ties .definition d e.id ∧ i.sets.namedProperties d = some (set, members)
  quantities : ∀ set, set ∈ e.quantities.keys ↔
    ∃ d members, f.Ties .definition d e.id ∧ i.sets.namedQuantities d = some (set, members)
  hasType : FilledBy e.relations.hasType (f.Ties .type · e.id)
  /-- Where no relationship contains an element its storey does. -/
  containedIn : (∃ a, f.Ties .containment a e.id) →
    FilledBy e.relations.containedIn (f.Ties .containment · e.id)
  aggregatedBy : FilledBy e.relations.aggregatedBy (f.Ties .aggregation · e.id)
  connectedTo : ∀ a, a ∈ e.relations.connectedTo ↔
    f.Ties .connection e.id a ∨ f.Ties .connection a e.id
  hasOpenings : ∀ a, a ∈ e.relations.hasOpenings ↔ f.Ties .opening e.id a
  fillsOpening : FilledBy e.relations.fillsOpening (f.Ties .filling · e.id)

end ModelFile

section Schemas

theorem relationshipSides_eq : relationshipSides =
    [.definition, .type, .containment, .aggregation, .connection, .opening, .filling].map
      Join.sides := rfl

theorem sides_mem (k : Join) : k.sides ∈ relationshipSides := by
  rw [relationshipSides_eq]
  cases k <;> exact List.mem_map_of_mem (by decide)

theorem ofType?_sides (k : Join) : Join.ofType? (Text.upper k.sides.1) = some k := by
  cases k <;> decide

theorem relationshipKinds_closed :
    ∀ s ∈ [Ifc2x3.schema, Ifc4.schema], ∀ p ∈ s.hierarchy.parents, ∀ up ∈ p.2,
      ∀ row ∈ relationshipSides, up ∈ relationshipKinds row.1 → p.1 ∈ relationshipKinds row.1 := by
  decide +kernel

theorem ofType?_of_mem_kinds : ∀ row ∈ relationshipSides, ∀ c ∈ relationshipKinds row.1,
    Join.ofType? (Text.upper c) =
      if lostClasses.contains c then none else Join.ofType? (Text.upper row.1) := by
  decide

end Schemas

theorem flatMap_filter {α β : Type} (p : α → Bool) (g : α → List β) (as : List α) :
    (as.filter p).flatMap g = as.flatMap fun a => if p a then g a else [] := by
  induction as with
  | nil => rfl
  | cons a as ih => cases h : p a <;> simp [h, ih]

namespace ModelFile

variable {f : ModelFile}

theorem map_filter_ancestry (f : ModelFile) (className : String) :
    ((f.entities.map fun e => (f.ancestry e, e)).filter fun e => e.1.contains className).map (·.2) =
      f.entities.filter fun e => (f.ancestry e).contains className := by
  rw [List.filter_map, List.map_map]
  exact List.map_id _

theorem ofClass_perm (f : ModelFile) (className : String) :
    (f.ofClass className).Perm (f.entities.filter fun e => (f.ancestry e).contains className) := by
  rw [← map_filter_ancestry, ofClass]
  exact (List.mergeSort_perm _ _).map _

theorem mem_ofClass {className : String} {e : FileEntity} :
    e ∈ f.ofClass className ↔ e ∈ f.entities ∧ className ∈ f.ancestry e := by
  rw [(ofClass_perm f className).mem_iff, List.mem_filter, List.contains_iff_mem]

/-- Entities that come in order are those of a class as they come. -/
theorem ofClass_of_sorted
    (h : f.entities.Pairwise fun a b =>
      (f.ancestry b).lex (f.ancestry a) (fun s t => s < t) = false)
    (className : String) :
    f.ofClass className = f.entities.filter fun e => (f.ancestry e).contains className := by
  have hpairs : ((f.entities.map fun e => (f.ancestry e, e)).filter fun e =>
      e.1.contains className).Pairwise
        fun a b => (!b.1.lex a.1 fun s t => s < t) = true := by
    refine List.Pairwise.filter _ (List.pairwise_map.mpr ?_)
    exact h.imp (by simp)
  rw [ofClass, List.mergeSort_of_pairwise hpairs, map_filter_ancestry]

/-- Where the ancestries of the entities are known, and they come in order, those of a class are
told by the known ancestries. -/
theorem ofClass_of_lineage {lineage : FileEntity → List String}
    (hl : ∀ e ∈ f.entities, f.ancestry e = lineage e)
    (hs : f.entities.Pairwise fun a b => (lineage b).lex (lineage a) (fun s t => s < t) = false)
    (className : String) :
    f.ofClass className = f.entities.filter fun e => (lineage e).contains className := by
  rw [ofClass_of_sorted]
  · exact List.filter_congr fun e he => by rw [hl e he]
  · refine hs.imp_of_mem fun {a b} ha hb h => ?_
    rw [hl a ha, hl b hb, h]

variable {row : String × String × String} {e : FileEntity}

/-- What is collected under a class fills its table or gets lost. -/
theorem ofType?_className (hs : f.schema = Ifc2x3.schema ∨ f.schema = Ifc4.schema)
    (hrow : row ∈ relationshipSides) (he : e ∈ f.ofClass row.1) :
    Join.ofType? (Text.upper e.className) =
      if e.isRead then Join.ofType? (Text.upper row.1) else none := by
  have hmem : f.schema ∈ [Ifc2x3.schema, Ifc4.schema] := by simpa using hs
  have hkind : e.className ∈ relationshipKinds row.1 :=
    Hierarchy.mem_of_mem_ancestry
      (fun p hp up hup => relationshipKinds_closed _ hmem p hp up hup row hrow)
      (mem_ofClass.mp he).2 List.mem_cons_self
  rw [ofType?_of_mem_kinds row hrow _ hkind, FileEntity.isRead]
  cases lostClasses.contains e.className <;> rfl

theorem samePairs_relationships (hs : f.schema = Ifc2x3.schema ∨ f.schema = Ifc4.schema) :
    SamePairs f.relationships (f.relationshipsByClass FileEntity.isRead) := by
  intro k
  rw [relationships, relationshipsByClass, Join.pairs_flatMap, Join.pairs_flatMap]
  refine List.flatMap_congr fun row hrow => ?_
  -- Entity by entity the own name leads where the name of the class leads, or nowhere.
  rw [Join.pairs_flatMap, Join.pairs_flatMap, flatMap_filter]
  refine List.flatMap_congr fun e he => ?_
  rw [Join.pairs_named, Join.pairs_named, ofType?_className hs hrow he]
  cases e.isRead <;> simp

theorem mem_pairs_relationships (hs : f.schema = Ifc2x3.schema ∨ f.schema = Ifc4.schema)
    (k : Join) (a b : Int) : ⟨a, b⟩ ∈ k.pairs f.relationships ↔ f.Ties k a b := by
  rw [samePairs_relationships hs k, Join.mem_pairs]
  simp only [relationshipsByClass, Ties, List.mem_flatMap, List.mem_filter, List.mem_map]
  constructor
  · rintro ⟨_, ⟨row, hrow, r, ⟨hr, hread⟩, id, hid, rfl⟩, hk, rfl, hb⟩
    rw [relationshipSides_eq] at hrow
    obtain ⟨k', -, rfl⟩ := List.mem_map.mp hrow
    obtain rfl : k' = k := Option.some.inj ((ofType?_sides k').symm.trans hk)
    exact ⟨r, hr, hread, hid, hb⟩
  · rintro ⟨r, hr, hread, ha, hb⟩
    exact ⟨_, ⟨_, sides_mem k, r, ⟨hr, hread⟩, a, ha, rfl⟩, ofType?_sides k, rfl, hb⟩

theorem relationships_of_input {i : Input} (h : f.input = .ok i) :
    i.relationships = some f.relationships := by
  obtain ⟨_, -, h⟩ := exists_of_bind_eq_ok h
  obtain ⟨_, -, h⟩ := exists_of_bind_eq_ok h
  obtain ⟨_, -, h⟩ := exists_of_bind_eq_ok h
  obtain ⟨_, -, h⟩ := exists_of_bind_eq_ok h
  cases h
  rfl

theorem filledBy_ties (hs : f.schema = Ifc2x3.schema ∨ f.schema = Ifc4.schema) (k : Join)
    (id : Int) : FilledBy (relatingTo (k.pairs f.relationships) id).getLast? (f.Ties k · id) := by
  have hfilled := filledBy_getLast? (k.pairs f.relationships) id
  simpa only [mem_pairs_relationships hs] using hfilled

theorem joined_of_mem_records (hs : f.schema = Ifc2x3.schema ∨ f.schema = Ifc4.schema) {i : Input}
    (hi : f.input = .ok i) {h : Hierarchy} {e : Element} (he : e ∈ (i.index h).records) :
    f.Joined i e := by
  obtain ⟨p, -, rfl⟩ := Input.mem_records_index he
  rw [relationships_of_input hi, Option.getD_some]
  have hrelations : (i.record h i.placements (Joins.of f.relationships) p.1 p.2).relations = _ :=
    Joins.relations_of f.relationships (i.containment.bind fun c => c.storeyOf.get? p.1) p.1
  constructor
  case properties =>
    intro set
    show set ∈ (i.sets.properties ((Joins.of f.relationships).definitionsOf p.1)).keys ↔ _
    rw [SetMaps.properties_eq_merged, mem_keys_merged, Joins.definitionsOf_of]
    simp only [mem_relatingTo, mem_pairs_relationships hs, exists_and_left]
    rfl
  case quantities =>
    intro set
    show set ∈ (i.sets.quantities ((Joins.of f.relationships).definitionsOf p.1)).keys ↔ _
    rw [SetMaps.quantities_eq_merged, mem_keys_merged, Joins.definitionsOf_of]
    simp only [mem_relatingTo, mem_pairs_relationships hs, exists_and_left]
    rfl
  case hasType =>
    rw [hrelations]
    exact filledBy_ties hs .type p.1
  case containedIn =>
    intro hcontained
    have hfilled := filledBy_ties hs .containment p.1
    rw [hrelations, Option.or_of_isSome (hfilled.1.mpr hcontained)]
    exact hfilled
  case aggregatedBy =>
    rw [hrelations]
    exact filledBy_ties hs .aggregation p.1
  case connectedTo =>
    intro a
    rw [hrelations, mem_neighbours, mem_pairs_relationships hs, mem_pairs_relationships hs]
    rfl
  case hasOpenings =>
    intro a
    rw [hrelations, mem_relatedBy, mem_pairs_relationships hs]
    rfl
  case fillsOpening =>
    rw [hrelations]
    exact filledBy_ties hs .filling p.1

/-- What an index makes of the relationships of a file: all that are collected under a class count
like relationships of that class itself, except for those of two subclasses, which count for
nothing. -/
theorem relationships_joined (f : ModelFile)
    (hs : f.schema = Ifc2x3.schema ∨ f.schema = Ifc4.schema) (i : Input) (hi : f.input = .ok i)
    (h : Hierarchy) :
    i.index h =
        ({ i with relationships := some (f.relationshipsByClass FileEntity.isRead) }).index h ∧
      ∀ e ∈ (i.index h).records, f.Joined i e := by
  have hsame : SamePairs (i.relationships.getD [])
      ((some (f.relationshipsByClass FileEntity.isRead)).getD []) := by
    rw [relationships_of_input hi]
    exact samePairs_relationships hs
  exact ⟨Input.index_congr hsame i h, fun e he => joined_of_mem_records hs hi he⟩

section Example

/-- Walls that are connected as paths and with realizing elements, and a wall with a set of its own
and one that overrides properties. -/
def joinedWalls : ModelFile where
  schema := Ifc2x3.schema
  entities := [
    ⟨1, "IfcWall", []⟩,
    ⟨2, "IfcWall", []⟩,
    ⟨3, "IfcWall", []⟩,
    ⟨4, "IfcPropertySet", [("Name", .plain (.str "Pset_Base"))]⟩,
    ⟨5, "IfcPropertySet", [("Name", .plain (.str "Pset_Override"))]⟩,
    ⟨6, "IfcRelConnectsPathElements",
      [("RelatingElement", .reference 1), ("RelatedElement", .reference 2)]⟩,
    ⟨7, "IfcRelConnectsWithRealizingElements",
      [("RelatingElement", .reference 1), ("RelatedElement", .reference 3)]⟩,
    ⟨8, "IfcRelDefinesByProperties",
      [("RelatingPropertyDefinition", .reference 4), ("RelatedObjects", .list [.reference 1])]⟩,
    ⟨9, "IfcRelOverridesProperties",
      [("RelatingPropertyDefinition", .reference 5), ("RelatedObjects", .list [.reference 1])]⟩]

/-- The ancestries of the classes in the file. -/
def lineages : List (String × List String) := [
  ("IfcWall", ["IfcRoot", "IfcObjectDefinition", "IfcObject", "IfcProduct", "IfcElement",
    "IfcBuildingElement", "IfcWall"]),
  ("IfcPropertySet", ["IfcRoot", "IfcPropertyDefinition", "IfcPropertySetDefinition",
    "IfcPropertySet"]),
  ("IfcRelConnectsPathElements", ["IfcRoot", "IfcRelationship", "IfcRelConnects",
    "IfcRelConnectsElements", "IfcRelConnectsPathElements"]),
  ("IfcRelConnectsWithRealizingElements", ["IfcRoot", "IfcRelationship", "IfcRelConnects",
    "IfcRelConnectsElements", "IfcRelConnectsWithRealizingElements"]),
  ("IfcRelDefinesByProperties", ["IfcRoot", "IfcRelationship", "IfcRelDefines",
    "IfcRelDefinesByProperties"]),
  ("IfcRelOverridesProperties", ["IfcRoot", "IfcRelationship", "IfcRelDefines",
    "IfcRelDefinesByProperties", "IfcRelOverridesProperties"])]

def lineage (e : FileEntity) : List String := (lineages.lookup e.className).getD []

theorem ancestry_joinedWalls :
    ∀ e ∈ joinedWalls.entities, joinedWalls.ancestry e = lineage e := by decide +kernel

theorem ofClass_joinedWalls (className : String) : joinedWalls.ofClass className =
    joinedWalls.entities.filter fun e => (lineage e).contains className :=
  ofClass_of_lineage ancestry_joinedWalls (by decide) className

theorem input_joinedWalls : ∃ i, joinedWalls.input = .ok i ∧
    (i.sets.namedProperties 4).map (·.1) = some "Pset_Base" ∧
    (i.sets.namedProperties 5).map (·.1) = some "Pset_Override" ∧
    (i.index Input.wallsAndDoors).records.map (·.id) = [1, 2, 3] := by
  have hread : joinedWalls.input.toOption.map (fun i =>
      ((i.sets.namedProperties 4).map (·.1), (i.sets.namedProperties 5).map (·.1),
        (i.index Input.wallsAndDoors).records.map (·.id))) =
      some (some "Pset_Base", some "Pset_Override", [1, 2, 3]) := by
    simp only [input, propertySets, quantitySets, materials, classifications, containment, placed,
      placements, relationships, graph, names, ofClass_joinedWalls]
    decide +kernel
  cases hi : joinedWalls.input with
  | error _ =>
    rw [hi] at hread
    nomatch hread
  | ok i =>
    rw [hi] at hread
    obtain ⟨hbase, hrest⟩ := Prod.mk.inj (Option.some.inj hread)
    obtain ⟨hoverride, hids⟩ := Prod.mk.inj hrest
    exact ⟨i, rfl, hbase, hoverride, hids⟩

end Example

theorem relationships_joined_joinedWalls :
    (joinedWalls.schema = Ifc2x3.schema ∨ joinedWalls.schema = Ifc4.schema) ∧
      ∃ i, joinedWalls.input = .ok i ∧ ∃ e ∈ (i.index Input.wallsAndDoors).records, e.id = 1 ∧
        2 ∈ e.relations.connectedTo ∧ 3 ∉ e.relations.connectedTo ∧
        "Pset_Base" ∈ e.properties.keys := by
  have hs : joinedWalls.schema = Ifc2x3.schema ∨ joinedWalls.schema = Ifc4.schema := .inl rfl
  obtain ⟨i, hi, hbase, -, hids⟩ := input_joinedWalls
  obtain ⟨e, he, hid⟩ : ∃ e ∈ (i.index Input.wallsAndDoors).records, e.id = 1 :=
    List.mem_map.mp (hids ▸ List.mem_cons_self)
  have hj := (relationships_joined joinedWalls hs i hi Input.wallsAndDoors).2 e he
  refine ⟨hs, i, hi, e, he, hid, ?_, ?_, ?_⟩
  · refine (hj.connectedTo 2).mpr (.inl ?_)
    rw [hid, Ties, ofClass_joinedWalls]
    decide +kernel
  · rw [hj.connectedTo 3, hid, Ties, Ties, ofClass_joinedWalls]
    decide +kernel
  · obtain ⟨⟨name, members⟩, hset, rfl⟩ := Option.map_eq_some_iff.mp hbase
    refine (hj.properties _).mpr ⟨4, members, ?_, hset⟩
    rw [hid, Ties, ofClass_joinedWalls]
    decide +kernel

/-- Relationships are collected, and no index has anything of them: a connection of two walls, and
a set of one of them. -/
theorem subclass_relationships_lost :
    (∃ r ∈ joinedWalls.ofClass "IfcRelConnectsElements",
        1 ∈ r.ids "RelatingElement" ∧ 3 ∈ r.ids "RelatedElement") ∧
      (∃ r ∈ joinedWalls.ofClass "IfcRelDefinesByProperties",
        5 ∈ r.ids "RelatingPropertyDefinition" ∧ 1 ∈ r.ids "RelatedObjects") ∧
      ∃ i, joinedWalls.input = .ok i ∧
        (i.sets.namedProperties 5).map (·.1) = some "Pset_Override" ∧
        (i.index Input.wallsAndDoors).records.map (·.id) = [1, 2, 3] ∧
        ∀ h, ∀ e ∈ (i.index h).records, e.id = 1 →
          3 ∉ e.relations.connectedTo ∧ "Pset_Override" ∉ e.properties.keys := by
  obtain ⟨i, hi, hbase, hoverride, hids⟩ := input_joinedWalls
  refine ⟨?_, ?_, i, hi, hoverride, hids, fun h e he hid => ?_⟩
  · rw [ofClass_joinedWalls]
    decide +kernel
  · rw [ofClass_joinedWalls]
    decide +kernel
  · have hj := joined_of_mem_records (f := joinedWalls) (.inl rfl) hi he
    constructor
    · rw [hj.connectedTo 3, hid, Ties, Ties, ofClass_joinedWalls]
      decide +kernel
    · rw [hj.properties, hid]
      rintro ⟨d, members, ⟨r, hr, hread, hd, -⟩, hset⟩
      have honly : ∀ r ∈ joinedWalls.ofClass Join.definition.sides.1, r.isRead →
          r.ids Join.definition.sides.2.1 = [4] := by
        rw [ofClass_joinedWalls]
        decide +kernel
      obtain rfl : d = 4 := by simpa [honly r hr hread] using hd
      simp [hset] at hbase

end ModelFile

end BuildingQuery
