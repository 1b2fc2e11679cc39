import BuildingQuery.Proofs.Index.Coherence
import BuildingQuery.Proofs.Text.Recased

/-! Inputs whose type names are spelled in other cases: those of the entities, of the relationships and
of the assignments of materials. Types that the hierarchy has are written as it writes them, and types
that it does not have are no products, so that the index is the same. -/

namespace BuildingQuery

section Congruence

variable {α β σ : Type} {R : α → β → Prop}

theorem rel_find?_of_forall₂ {p : α → Bool} {q : β → Bool} {as : List α} {bs : List β}
    (h : List.Forall₂ R as bs) (hpq : ∀ a b, R a b → p a = q b) :
    Option.Rel R (as.find? p) (bs.find? q) := by
  induction h with
  | nil => exact .none
  | @cons a b as bs hab _ ih =>
    rw [List.find?_cons, List.find?_cons, hpq a b hab]
    cases q b with
    | true => exact .some hab
    | false => exact ih

theorem bind_congr_of_rel {f : α → Option σ} {g : β → Option σ} {o : Option α} {o' : Option β}
    (h : Option.Rel R o o') (hfg : ∀ a b, R a b → f a = g b) : o.bind f = o'.bind g := by
  cases h with
  | none => rfl
  | some hab => exact hfg _ _ hab

end Congruence

section Inputs

structure Entity.TypeRecased (e f : Entity) : Prop where
  id : e.id = f.id
  typeName : Text.Recased e.typeName f.typeName
  attributes : e.attributes = f.attributes

structure Relationship.TypeRecased (r s : Relationship) : Prop where
  typeName : Text.Recased r.typeName s.typeName
  relating : r.relating = s.relating
  related : r.related = s.related

structure MaterialAssignment.TypeRecased (a b : MaterialAssignment) : Prop where
  element : a.element = b.element
  material : a.material = b.material
  typeName : Text.Recased a.typeName b.typeName

structure EntityGraph.TypesRecased (g g' : EntityGraph) : Prop where
  entities : List.Forall₂ (fun p q => p.1 = q.1 ∧ p.2.TypeRecased q.2) g.entities g'.entities
  idsByType : List.Forall₂ (fun p q => Text.Recased p.1 q.1 ∧ p.2 = q.2) g.idsByType g'.idsByType

structure Materials.TypesRecased (m n : Materials) : Prop where
  materials : m.materials = n.materials
  layers : m.layers = n.layers
  layerSets : m.layerSets = n.layerSets
  assignments : List.Forall₂ MaterialAssignment.TypeRecased m.assignments n.assignments

/-- The inputs differ at most in the case of ASCII letters in the names of types, in each place by
itself. -/
structure Input.TypesRecased (i j : Input) : Prop where
  graph : i.graph.TypesRecased j.graph
  materials : Option.Rel Materials.TypesRecased i.materials j.materials
  relationships :
    Option.Rel (List.Forall₂ Relationship.TypeRecased) i.relationships j.relationships
  propertySets : i.propertySets = j.propertySets
  quantitySets : i.quantitySets = j.quantitySets
  classifications : i.classifications = j.classifications
  containment : i.containment = j.containment
  names : i.names = j.names

end Inputs

namespace Entity.TypeRecased

variable {e f : Entity}

theorem text?_eq (h : e.TypeRecased f) : e.text? = f.text? := by
  funext position name
  rw [text?, text?, attribute?, attribute?, h.attributes]

theorem name?_eq (h : e.TypeRecased f) : e.name? = f.name? := by
  rw [name?, name?, h.text?_eq]

theorem enumerated?_eq (h : e.TypeRecased f) : e.enumerated? = f.enumerated? := by
  funext position name
  rw [enumerated?, enumerated?, h.text?_eq]

end Entity.TypeRecased

namespace EntityGraph.TypesRecased

variable {g g' : EntityGraph}

theorem rel_get? (h : g.TypesRecased g') (id : Int) :
    Option.Rel Entity.TypeRecased (g.entities.get? id) (g'.entities.get? id) := by
  have hentities := h.entities
  generalize g.entities = es, g'.entities = es' at hentities ⊢
  induction hentities with
  | nil => exact .none
  | @cons p q es es' hpq _ ih =>
    rw [OrderedMap.get?_cons, OrderedMap.get?_cons, hpq.1]
    by_cases hid : (id == q.1) = true
    · rw [if_pos hid, if_pos hid]
      exact .some hpq.2
    · rw [if_neg hid, if_neg hid]
      exact ih

theorem containerName_eq (h : g.TypesRecased g') (kind : String) (id : Int) :
    g.containerName kind id = g'.containerName kind id := by
  have hname : (g.entities.get? id).bind Entity.name? = (g'.entities.get? id).bind Entity.name? :=
    bind_congr_of_rel (h.rel_get? id) fun _ _ hef => hef.name?_eq
  rw [containerName, containerName, hname]

end EntityGraph.TypesRecased

theorem Join.ofType?_congr {s t : String} (h : Text.Recased s t) : ofType? s = ofType? t := by
  rw [ofType?, ofType?, h.upper_eq]

theorem Joins.of_congr {rs rs' : List Relationship}
    (h : List.Forall₂ Relationship.TypeRecased rs rs') : of rs = of rs' := by
  refine List.rel_foldl (P := Eq) ?_ rfl h
  rintro j _ rfl r s hrs
  rw [add, add, Join.ofType?_congr hrs.typeName, hrs.relating, hrs.related]

theorem MaterialAssignment.TypeRecased.isLayered_eq {a b : MaterialAssignment}
    (h : a.TypeRecased b) : a.isLayered = b.isLayered := by
  rw [isLayered, isLayered, Text.lowerChars_congr h.typeName]

namespace Materials.TypesRecased

variable {m n : Materials}

theorem assigned?_eq (h : m.TypesRecased n) {a b : MaterialAssignment} (hab : a.TypeRecased b) :
    m.assigned? a = n.assigned? b := by
  have hlayer : m.layer = n.layer := by
    funext id
    rw [layer, layer, h.layers]
  rw [assigned?, assigned?, hab.isLayered_eq, hab.material, h.layerSets, h.materials, hlayer]

theorem ofElement?_eq (h : m.TypesRecased n) (id : Int) : m.ofElement? id = n.ofElement? id := by
  have hfound : Option.Rel MaterialAssignment.TypeRecased
      (m.assignments.find? (·.element == id)) (n.assignments.find? (·.element == id)) :=
    rel_find?_of_forall₂ h.assignments fun _ _ hab => by rw [hab.element]
  exact bind_congr_of_rel hfound fun _ _ hab => h.assigned?_eq hab

end Materials.TypesRecased

namespace Input

section Products

variable {h : Hierarchy} {e f : Entity}

/-- Where the table has the class of products, what it does not have is no product. -/
theorem isProduct_of_not_contains (hk : "IfcProduct" ∈ h.parents.keys)
    (he : h.contains e.typeName = false) : isProduct h e = false := by
  rw [isProduct, h.resolve_of_not_contains he, h.chain_of_not_contains he, Bool.eq_false_iff]
  intro hp
  have hname : "IfcProduct" = e.typeName := by simpa using hp
  rw [← hname, Hierarchy.contains_of_mem hk] at he
  nomatch he

theorem isProduct_congr (hk : "IfcProduct" ∈ h.parents.keys) (hef : e.TypeRecased f) :
    isProduct h e = isProduct h f := by
  have hu := hef.typeName.upper_eq
  cases hf : h.contains f.typeName with
  | true => rw [isProduct, isProduct, Hierarchy.resolve_congr hu hf]
  | false =>
    rw [isProduct_of_not_contains hk hf,
      isProduct_of_not_contains hk ((Hierarchy.contains_congr hu).trans hf)]

theorem contains_of_isProduct (hk : "IfcProduct" ∈ h.parents.keys) (he : isProduct h e = true) :
    h.contains e.typeName = true := by
  by_contra hc
  rw [isProduct_of_not_contains hk (Bool.eq_false_iff.mpr hc)] at he
  nomatch he

end Products

namespace TypesRecased

variable {i j : Input} {h : Hierarchy} {places : Placements} {joins : Joins} {e f : Entity}

theorem placements_eq (hij : i.TypesRecased j) : i.placements = j.placements := by
  rw [placements, placements, hij.containment]
  cases j.containment with
  | none => rfl
  | some c =>
    have hc : c.placements i.graph = c.placements j.graph :=
      Containment.placements_congr fun id _ kind => hij.graph.containerName_eq kind id
    rw [Option.map_some, Option.map_some, hc]

theorem joins_eq (hij : i.TypesRecased j) :
    Joins.of (i.relationships.getD []) = Joins.of (j.relationships.getD []) := by
  have hrs := hij.relationships
  generalize i.relationships = rs, j.relationships = rs' at hrs ⊢
  cases hrs with
  | none => rfl
  | some hrs => exact Joins.of_congr hrs

theorem material_eq (hij : i.TypesRecased j) (id : Int) :
    (i.materials.bind fun m => m.ofElement? id) = j.materials.bind fun m => m.ofElement? id :=
  bind_congr_of_rel hij.materials fun _ _ hmn => hmn.ofElement?_eq id

theorem sets_eq (hij : i.TypesRecased j) : i.sets = j.sets := by
  rw [sets, sets, hij.propertySets, hij.quantitySets]

theorem record_eq (hij : i.TypesRecased j) (hef : e.TypeRecased f)
    (hr : h.resolve e.typeName = h.resolve f.typeName) (id : Int) :
    i.record h places joins id e = j.record h places joins id f := by
  have hname : i.elementName id e = j.elementName id f := by
    rw [elementName, elementName, hij.names, hef.name?_eq]
  rw [record, record, hname, hij.sets_eq, hij.material_eq, hij.classifications, hij.containment,
    hef.text?_eq, hef.enumerated?_eq, hr]

/-- One step takes in the same record, or passes over the entity in both spellings. -/
theorem step_eq (hij : i.TypesRecased j) (hk : "IfcProduct" ∈ h.parents.keys)
    (hef : e.TypeRecased f) (ix : Index) (id : Int) :
    i.step h places joins ix (id, e) = j.step h places joins ix (id, f) := by
  rw [step, step, isProduct_congr hk hef]
  cases hf : isProduct h f with
  | false => rfl
  | true =>
    have hr : h.resolve e.typeName = h.resolve f.typeName :=
      Hierarchy.resolve_congr hef.typeName.upper_eq (contains_of_isProduct hk hf)
    rw [if_pos rfl, if_pos rfl, hij.record_eq hef hr, hij.sets_eq]

end TypesRecased

/-- The index under a hierarchy that has the class of products. -/
theorem index_congr_types {i j : Input} {h : Hierarchy} (hij : i.TypesRecased j)
    (hk : "IfcProduct" ∈ h.parents.keys) : i.index h = j.index h := by
  rw [index, index, hij.placements_eq, hij.joins_eq]
  refine List.rel_foldl (P := Eq) ?_ rfl hij.graph.entities
  rintro ix _ rfl ⟨id, e⟩ ⟨_, f⟩ ⟨rfl, hef⟩
  exact hij.step_eq hk hef ix id

theorem product_mem_products : "IfcProduct" ∈ Hierarchy.products.parents.keys := by decide

/-- The case of letters in the names of types makes no difference to an index of IFC4: every type is
written as the table of products writes it. -/
theorem index_eq_of_typesRecased {i j : Input} (hij : i.TypesRecased j) :
    i.index .products = j.index .products ∧
      ∀ e ∈ (i.index .products).records, e.typeName ∈ Hierarchy.products.names := by
  refine ⟨index_congr_types hij product_mem_products, ?_⟩
  refine forall_mem_records_index fun p _ hp => ?_
  exact Hierarchy.resolve_mem_of_contains (contains_of_isProduct product_mem_products hp)

/-- A wall with a layer set and a connection, and an entity of no type that is known. -/
def connectedWall (wall unknown connects layers : String) : Input where
  graph := {
    entities := [(4, ⟨4, wall, .positional []⟩), (9, ⟨9, unknown, .positional []⟩)]
    idsByType := [(wall, [4])] }
  materials := some ⟨[], [], [(50, ⟨some "Brick", [], none⟩)], [⟨4, 50, layers⟩]⟩
  relationships := some [⟨connects, 4, [2]⟩]

theorem index_eq_of_typesRecased_connectedWall :
    ∃ i j, i = connectedWall "IFCWALL" "IFCTREE" "IfcRelConnectsElements" "layerSet" ∧
      j = connectedWall "IfcWall" "ifcTree" "IFCRELCONNECTSELEMENTS" "LAYERSET" ∧
      i.TypesRecased j ∧ i.index .products = j.index .products ∧
      (i.index .products).records.map (fun e => (e.typeName, e.relations.connectedTo)) =
        [("IfcWall", [2])] := by
  have hij : (connectedWall "IFCWALL" "IFCTREE" "IfcRelConnectsElements" "layerSet").TypesRecased
      (connectedWall "IfcWall" "ifcTree" "IFCRELCONNECTSELEMENTS" "LAYERSET") := {
    graph := {
      entities :=
        .cons ⟨rfl, rfl, by decide +kernel, rfl⟩ (.cons ⟨rfl, rfl, by decide +kernel, rfl⟩ .nil)
      idsByType := .cons ⟨by decide +kernel, rfl⟩ .nil }
    materials := .some ⟨rfl, rfl, rfl, .cons ⟨rfl, rfl, by decide +kernel⟩ .nil⟩
    relationships := .some (.cons ⟨by decide +kernel, rfl, rfl⟩ .nil)
    propertySets := rfl
    quantitySets := rfl
    classifications := rfl
    containment := rfl
    names := rfl }
  exact ⟨_, _, rfl, rfl, hij, (index_eq_of_typesRecased hij).1, by decide +kernel⟩

end Input

end BuildingQuery
