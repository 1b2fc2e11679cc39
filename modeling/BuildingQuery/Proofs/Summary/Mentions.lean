import BuildingQuery.Proofs.Summary.Counts
import BuildingQuery.Proofs.Summary.Groups

/-! What the counts of buildings and of classification systems count. A building counts the records
on storeys that are named like one of its own, in whichever building they are; a system and a code
count how often records mention them, so that a record can count several times. -/

namespace BuildingQuery

section Lists

variable {α : Type} {as : List α}

theorem countP_add_of_forall {p q r s : α → Bool}
    (h : ∀ a ∈ as, (p a).toNat + (q a).toNat = (r a).toNat + (s a).toNat) :
    as.countP p + as.countP q = as.countP r + as.countP s := by
  induction as with
  | nil => rfl
  | cons a as ih =>
    obtain ⟨ha, has⟩ := List.forall_mem_cons.mp h
    have hs := ih has
    have hbit : ∀ b : Bool, (if b = true then 1 else 0) = b.toNat := by decide
    simp only [List.countP_cons, hbit]
    omega

theorem countP_pos_le_sum (size : α → Nat) (as : List α) :
    (as.countP fun a => 0 < size a) ≤ (as.map size).sum := by
  induction as with
  | nil => rfl
  | cons a as ih =>
    simp only [List.countP_cons, List.map_cons, List.sum_cons, decide_eq_true_eq]
    split <;> omega

/-- Sizes add up to the number of those that are not zero only if none is above one. -/
theorem sum_eq_countP_pos_iff (size : α → Nat) (as : List α) :
    (as.map size).sum = (as.countP fun a => 0 < size a) ↔ ∀ a ∈ as, size a ≤ 1 := by
  induction as with
  | nil => simp
  | cons a as ih =>
    have hle := countP_pos_le_sum size as
    rw [List.forall_mem_cons, ← ih]
    simp only [List.countP_cons, List.map_cons, List.sum_cons, decide_eq_true_eq]
    split <;> omega

end Lists

namespace Index

/-- The record is on a storey with the name of one that a record of the building is on. -/
def onStoreyOf (ix : Index) (building : String) (e : Element) : Bool :=
  (givenName e.location.storey).any fun s => ix.records.any fun r =>
    r.location.building == some building && r.location.storey == some s

/-- How often the records mention what a classification is about. -/
def mentions (ix : Index) (about : Classification → Bool) : Nat :=
  (ix.records.map fun e => e.classifications.countP about).sum

end Index

structure BuildingSummary.Counts (ix : Index) (b : BuildingSummary) : Prop where
  elementCount_eq : b.elementCount = ix.records.countP (ix.onStoreyOf b.name)
  /-- Against the records of the building, those without a storey are missing, and those of other
  buildings are too many. -/
  balance :
    b.elementCount + (ix.records.countP fun e =>
        e.location.building == some b.name && (givenName e.location.storey).isEmpty) =
      (ix.records.countP fun e => e.location.building == some b.name) +
        ix.records.countP fun e => ix.onStoreyOf b.name e && !(e.location.building == some b.name)

/-- A number of mentions, which is that of the records with a mention only if none has two. -/
structure CountsMentions (ix : Index) (about : Classification → Bool) (n : Nat) : Prop where
  eq_mentions : n = ix.mentions about
  carriers_le : (ix.records.countP fun e => e.classifications.any about) ≤ n
  eq_carriers_iff : (n = ix.records.countP fun e => e.classifications.any about) ↔
    ∀ e ∈ ix.records, e.classifications.countP about ≤ 1

structure SystemSummary.Counts (ix : Index) (y : SystemSummary) : Prop where
  elementCount : CountsMentions ix (fun c => c.system == y.system) y.elementCount
  codeNames : Collected
    (fun e => (e.classifications.filter (·.system == y.system)).map (·.code)) ix.records
    (y.codes.map (·.code))
  codes : ∀ k ∈ y.codes,
    CountsMentions ix (fun c => c.system == y.system && c.code == k.code) k.elementCount

structure Summary.CountsGroups (ix : Index) (s : Summary) : Prop where
  buildingNames :
    Collected (fun e => givenName e.location.building) ix.records (s.places.buildings.map (·.name))
  buildings : ∀ b ∈ s.places.buildings, b.Counts ix
  systemNames :
    Collected (fun e => e.classifications.map (·.system)) ix.records (s.systems.map (·.system))
  systems : ∀ y ∈ s.systems, y.Counts ix
  buildings_le : ∀ b ∈ s.places.buildings, b.elementCount ≤ s.total
  storeys_le : ∀ t ∈ s.places.storeys, t.elementCount ≤ s.total
  materials_le : ∀ m ∈ s.materials, m.elementCount ≤ s.total
  types_le : ∀ t ∈ s.types, t.count ≤ s.total
  propertySets_le : ∀ t ∈ s.propertySets, t.elementCount ≤ s.total

theorem countsMentions_of_eq {ix : Index} {about : Classification → Bool} {n : Nat}
    (h : n = ix.mentions about) : CountsMentions ix about n := by
  have hany : (fun e : Element => e.classifications.any about) =
      fun e => decide (0 < e.classifications.countP about) := by
    funext e
    rw [Bool.eq_iff_iff, decide_eq_true_iff, List.countP_pos_iff, List.any_eq_true]
  refine ⟨h, ?_, ?_⟩
  · rw [hany, h]
    exact countP_pos_le_sum _ _
  · rw [hany, h]
    exact sum_eq_countP_pos_iff _ _

namespace Index

variable {ix : Index}

section Buildings

theorem mem_storeys_of_building {name s : String} {storeys : List (List String)}
    (h : (name, storeys) ∈ grouped (ix.records.flatMap fun e =>
      (givenName e.location.building).map fun b => (b, givenName e.location.storey))) :
    s ∈ storeys.flatten ↔ ∃ e ∈ ix.records, name ∈ givenName e.location.building ∧
      s ∈ givenName e.location.storey := by
  obtain ⟨rfl, -⟩ := mem_grouped.mp h
  simp only [List.mem_flatten, mem_under, List.mem_flatMap, List.mem_map, Prod.mk.injEq]
  grind

theorem countP_flatMap_givenName (es : List Element) (wanted : String → Bool) :
    ((es.flatMap fun e => (givenName e.location.storey).map fun s => (s, e)).countP
        fun p => wanted p.1) = es.countP fun e => (givenName e.location.storey).any wanted := by
  induction es with
  | nil => rfl
  | cons e es ih =>
    rw [List.flatMap_cons, List.countP_append, ih, List.countP_cons, Nat.add_comm]
    congr 1
    unfold givenName
    split <;> simp [List.countP_cons]

/-- The storeys with some of the names have the records on them between them. -/
theorem sum_elementCount_storeys (ix : Index) (wanted : String → Bool) :
    ((ix.storeySummaries.filter fun t => wanted t.name).map (·.elementCount)).sum =
      ix.records.countP fun e => (givenName e.location.storey).any wanted := by
  have hgroups := sum_grouped (ix.records.flatMap fun e =>
    (givenName e.location.storey).map fun s => (s, e)) wanted
  rw [storeySummaries, (((Ordered.sort_perm _ _).filter _).map _).sum_eq,
    ← countP_flatMap_givenName, ← hgroups, List.filter_map, List.map_map]
  rfl

theorem buildingNames_collected (ix : Index) :
    Collected (fun e => givenName e.location.building) ix.records
      (ix.buildingSummaries.map (·.name)) := by
  rw [buildingSummaries, List.map_map]
  refine ⟨nodup_grouped _, fun name => ?_⟩
  refine mem_keys_grouped.trans ?_
  simp [List.map_flatMap, Function.comp_def]

theorem any_storeys_eq_onStoreyOf {name : String} {storeys : List (List String)}
    (h : (name, storeys) ∈ grouped (ix.records.flatMap fun e =>
      (givenName e.location.building).map fun b => (b, givenName e.location.storey)))
    (e : Element) :
    (givenName e.location.storey).any storeys.flatten.contains = ix.onStoreyOf name e := by
  have hname : name ≠ "" := by
    obtain ⟨r, -, hr⟩ := exists_mem_of_mem_grouped h
    have hgiven : name ∈ givenName r.location.building := by simpa using hr
    exact (mem_givenName.mp hgiven).2
  rw [onStoreyOf, Bool.eq_iff_iff]
  simp only [List.any_eq_true, List.contains_iff_mem, mem_storeys_of_building h, mem_givenName,
    Bool.and_eq_true, beq_iff_eq]
  grind

theorem elementCount_of_mem_buildingSummaries : ∀ b ∈ ix.buildingSummaries,
    b.elementCount = ix.records.countP (ix.onStoreyOf b.name) := by
  intro b hb
  obtain ⟨⟨name, storeys⟩, hp, rfl⟩ := List.mem_map.mp hb
  have hsum := ix.sum_elementCount_storeys storeys.flatten.contains
  simp only [any_storeys_eq_onStoreyOf hp] at hsum
  rw [← hsum, List.sum_eq_foldl, List.foldl_map]

/-- A record of a building that is on a storey is on a storey of the building. -/
theorem onStoreyOf_of_building {name : String} {e : Element} (he : e ∈ ix.records)
    (hb : e.location.building = some name) (hs : givenName e.location.storey ≠ []) :
    ix.onStoreyOf name e = true := by
  obtain ⟨s, hs⟩ := List.exists_mem_of_ne_nil _ hs
  have hstorey := (mem_givenName.mp hs).1
  exact List.any_eq_true.mpr ⟨s, hs, List.any_eq_true.mpr ⟨e, he, by simp [hb, hstorey]⟩⟩

theorem countP_onStoreyOf (ix : Index) (name : String) :
    ix.records.countP (ix.onStoreyOf name) + (ix.records.countP fun e =>
        e.location.building == some name && (givenName e.location.storey).isEmpty) =
      (ix.records.countP fun e => e.location.building == some name) +
        ix.records.countP fun e => ix.onStoreyOf name e && !(e.location.building == some name) := by
  refine countP_add_of_forall fun e he => ?_
  by_cases hb : e.location.building = some name
  · by_cases hs : givenName e.location.storey = []
    · have hoff : ix.onStoreyOf name e = false := by
        rw [onStoreyOf, hs]
        rfl
      simp [hb, hs, hoff]
    · simp [hb, hs, onStoreyOf_of_building he hb hs]
  · have hother : (e.location.building == some name) = false := beq_eq_false_iff_ne.mpr hb
    simp [hother]

theorem building_counts : ∀ b ∈ ix.buildingSummaries, b.Counts ix := by
  intro b hb
  have hcount := elementCount_of_mem_buildingSummaries b hb
  exact ⟨hcount, hcount ▸ ix.countP_onStoreyOf b.name⟩

end Buildings

section Systems

variable {system : String} {cs : List Classification}

/-- The classifications of all records that are of a system. -/
def classificationsOf (ix : Index) (system : String) : List Classification :=
  ix.records.flatMap fun e => e.classifications.filter (·.system == system)

theorem eq_classificationsOf (h : (system, cs) ∈ grouped (ix.records.flatMap fun e =>
    e.classifications.map fun c => (c.system, c))) : cs = ix.classificationsOf system := by
  obtain ⟨rfl, -⟩ := mem_grouped.mp h
  rw [under_flatMap, classificationsOf]
  refine List.flatMap_congr fun e _ => ?_
  rw [under_map_key, List.map_id'']
  intro c
  rfl

theorem countP_classificationsOf (ix : Index) (system : String) (about : Classification → Bool) :
    (ix.classificationsOf system).countP about =
      ix.mentions fun c => c.system == system && about c := by
  rw [classificationsOf, List.countP_flatMap, mentions]
  congr 1
  refine List.map_congr_left fun e _ => ?_
  rw [Function.comp, List.countP_filter]
  exact List.countP_congr fun c _ => by rw [Bool.and_comm]

/-- The codes of a system with their names. -/
theorem code_counts {code : String} {names : List String}
    (h : (code, names) ∈ grouped ((ix.classificationsOf system).map fun c => (c.code, c.name))) :
    names.length = ix.mentions fun c => c.system == system && c.code == code := by
  obtain ⟨rfl, -⟩ := mem_grouped.mp h
  rw [under_map_key, List.length_map, ← List.countP_eq_length_filter, countP_classificationsOf]

theorem systemNames_collected (ix : Index) :
    Collected (fun e => e.classifications.map (·.system)) ix.records
      (ix.systemSummaries.map (·.system)) := by
  have hkeys : Collected (fun e => e.classifications.map (·.system)) ix.records
      (grouped (ix.records.flatMap fun e =>
        e.classifications.map fun c => (c.system, c))).keys := by
    refine ⟨nodup_grouped _, fun system => ?_⟩
    rw [mem_keys_grouped]
    simp [List.map_flatMap, Function.comp_def]
  rw [systemSummaries]
  exact hkeys.of_perm (Ordered.byCount_perm _ _) fun _ => rfl

theorem collected_codes (ix : Index) (system : String) :
    Collected (fun e => (e.classifications.filter (·.system == system)).map (·.code)) ix.records
      (grouped ((ix.classificationsOf system).map fun c => (c.code, c.name))).keys := by
  refine ⟨nodup_grouped _, fun code => ?_⟩
  rw [mem_keys_grouped]
  simp only [classificationsOf, List.mem_map, List.mem_flatMap]
  grind

theorem system_counts : ∀ y ∈ ix.systemSummaries, y.Counts ix := by
  intro y hy
  rw [systemSummaries, (Ordered.byCount_perm _ _).mem_iff] at hy
  obtain ⟨⟨system, cs⟩, hp, rfl⟩ := List.mem_map.mp hy
  obtain rfl := eq_classificationsOf hp
  refine ⟨countsMentions_of_eq ?_, ?_, fun k hk => countsMentions_of_eq ?_⟩
  · have hall := ix.countP_classificationsOf system fun _ => true
    simpa using hall
  · exact (ix.collected_codes system).of_perm (List.mergeSort_perm _ _) fun _ => rfl
  · rw [(List.mergeSort_perm _ _).mem_iff] at hk
    obtain ⟨⟨code, names⟩, hcode, rfl⟩ := List.mem_map.mp hk
    exact code_counts hcode

end Systems

theorem countP_le_total (ix : Index) (p : Element → Bool) :
    ix.records.countP p ≤ ix.toSummary.total :=
  List.countP_le_length.trans_eq (List.length_map _)

/-- What the counts of a summary count. Those of buildings can miss records and take in foreign
ones, and those of systems and codes can be above the total. -/
theorem toSummary_countsGroups (ix : Index) (h : ix.WellFormed) :
    ix.toSummary.CountsGroups ix where
  buildingNames := ix.buildingNames_collected
  buildings := building_counts
  systemNames := ix.systemNames_collected
  systems := system_counts
  buildings_le b hb := (building_counts b hb).elementCount_eq.trans_le (ix.countP_le_total _)
  storeys_le t ht := (elementCount_of_mem_storeySummaries t ht).trans_le (ix.countP_le_total _)
  materials_le m hm := (elementCount_of_mem_materialSummaries m hm).trans_le (ix.countP_le_total _)
  types_le t ht := (ix.types_exact t ht).count_eq.trans_le (ix.countP_le_total _)
  propertySets_le s hs :=
    (propertySets_exact h s hs).elementCount_eq.trans_le (ix.countP_le_total _)

/-- A wall that repeats the codes of a system, two buildings with storeys of one name, and a
building without storeys. -/
def crossed : Index where
  elements := [
    (1, { Element.plain 1 "IfcWall" with
      location := { building := some "North", storey := some "Ground" }
      classifications := [
        ⟨"Uniclass", "EF_25", "Walls", []⟩, ⟨"Uniclass", "EF_30", "Doors", []⟩,
        ⟨"Uniclass", "EF_25", "Walls", []⟩, ⟨"Uniclass", "EF_35", "Stairs", []⟩] }),
    (2, { Element.plain 2 "IfcDoor" with
      location := { building := some "South", storey := some "Ground" } }),
    (3, { Element.plain 3 "IfcSlab" with location := { building := some "West" } })]
  hierarchy := ⟨[]⟩

theorem toSummary_countsGroups_crossed :
    crossed.WellFormed ∧
      (∀ b ∈ crossed.toSummary.places.buildings, b.name = "West" → b.elementCount = 0) ∧
      ∀ y ∈ crossed.toSummary.systems, y.system = "Uniclass" → y.elementCount = 4 := by
  have hw : crossed.WellFormed := by decide
  have hcounts := toSummary_countsGroups crossed hw
  refine ⟨hw, fun b hb hname => ?_, fun y hy hname => ?_⟩
  · rw [(hcounts.buildings b hb).elementCount_eq, hname]
    decide
  · rw [(hcounts.systems y hy).elementCount.eq_mentions, hname]
    decide

/-- Buildings and systems need not count the records that are of them: one building has none of its
records, another one too many, and a system more than there are records. -/
theorem groups_miscounted :
    (∃ b ∈ crossed.toSummary.places.buildings,
      b.elementCount < crossed.records.countP fun e => e.location.building == some b.name) ∧
    (∃ b ∈ crossed.toSummary.places.buildings,
      (crossed.records.countP fun e => e.location.building == some b.name) < b.elementCount) ∧
    (∃ y ∈ crossed.toSummary.systems, ∃ k ∈ y.codes,
      (crossed.records.countP fun e =>
        e.classifications.any fun c => c.system == y.system && c.code == k.code) <
          k.elementCount) ∧
    ∃ y ∈ crossed.toSummary.systems, crossed.toSummary.total < y.elementCount := by
  obtain ⟨y, hy, hsystem⟩ := List.mem_map.mp ((crossed.systemNames_collected.mem_iff "Uniclass").mpr
    (by decide))
  have hcounts := system_counts y hy
  have hnames := hcounts.codeNames.mem_iff "EF_25"
  rw [hsystem] at hnames
  obtain ⟨k, hk, hcode⟩ := List.mem_map.mp (hnames.mpr (by decide))
  refine ⟨by decide +kernel, by decide +kernel, ⟨y, hy, k, hk, ?_⟩, ⟨y, hy, ?_⟩⟩
  · rw [(hcounts.codes k hk).eq_mentions, hsystem, hcode]
    decide
  · rw [hcounts.elementCount.eq_mentions, hsystem]
    decide

end Index

end BuildingQuery
