import BuildingQuery.Index
import Mathlib.Data.List.Nodup

/-! Records that stand under their own ids, each id once. -/

namespace BuildingQuery

def Element.plain (id : Int) (typeName : String) : Element where
  id
  globalId := ""
  typeName
  ancestry := [typeName]
  name := none
  description := none
  tag := none
  objectType := none
  predefinedType := none
  location := {}
  properties := []
  quantities := []
  material := none
  classifications := []
  relations := {}

namespace Index

/-- Every record stands under its own id, and no id comes twice. -/
structure Keyed (ix : Index) : Prop where
  nodup : ix.ids.Nodup
  id_eq : ∀ p ∈ ix.elements, p.2.id = p.1

variable {ix : Index}

theorem Keyed.map_id (h : ix.Keyed) : ix.records.map (·.id) = ix.ids := by
  simp only [records, ids, OrderedMap.values, OrderedMap.keys, List.map_map]
  exact List.map_congr_left fun p hp => h.id_eq p hp

theorem Keyed.map_filter (h : ix.Keyed) (p : Int → Bool) :
    (ix.records.filter fun e => p e.id).map (·.id) = ix.ids.filter p := by
  rw [← h.map_id, List.filter_map]
  rfl

theorem Keyed.eq_of_id_eq (h : ix.Keyed) {e f : Element} (he : e ∈ ix.records)
    (hf : f ∈ ix.records) (hid : e.id = f.id) : e = f := by
  have hn : (ix.records.map (·.id)).Nodup := h.map_id ▸ h.nodup
  exact List.inj_on_of_nodup_map hn he hf hid

end Index

end BuildingQuery
