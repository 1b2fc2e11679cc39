import BuildingQuery.Json.Reader
import BuildingQuery.Proofs.Value.Data

/-! What JSON text is read as. It is JSON data: the keys of its maps are texts, and a key that comes
again in the text is one key of the map. -/

namespace BuildingQuery.Json

open Value

def Token.IsData (t : Token) : Prop := ∀ v, t = .atom v → v.IsData

/-- What is open has data for parts, and texts for keys. -/
def Frame.IsData : Frame → Prop
  | .list items => ∀ v ∈ items, v.IsData
  | .map entries | .entry entries _ => ∀ e ∈ entries, (∃ s, e.1 = .str s) ∧ e.2.IsData

/-- Entries with texts for keys, put into a map one by one, are data. -/
theorem isData_ofList {es : List (Key × Value)}
    (h : ∀ e ∈ es, (∃ s, e.1 = .str s) ∧ e.2.IsData) : (Value.map (OrderedMap.ofList es)).IsData := by
  obtain ⟨fs, rfl⟩ := exists_record fun e he => (h e he).1
  have hdata : ∀ f ∈ fs, f.2.IsData := fun f hf => (h _ (List.mem_map.mpr ⟨f, hf, rfl⟩)).2
  rw [OrderedMap.ofList_map_key Key.beq_str]
  exact .map (OrderedMap.nodup_ofList fs) (OrderedMap.forall_mem_ofList hdata)

structure Reading.IsData (r : Reading) : Prop where
  frames : ∀ f ∈ r.frames, f.IsData
  whole : ∀ v, r.place = .nothing v → v.IsData

namespace Reading

variable {r s : Reading} {t : Token}

theorem isData_take {fs : List Frame} {p : Place} (hf : ∀ f ∈ fs, f.IsData) {v : Value}
    (hv : v.IsData) (h : take ⟨fs, p⟩ v = some s) : s.IsData := by
  cases fs with
  | nil =>
    obtain rfl := Option.some.inj h
    exact ⟨by simp, fun w hw => Place.nothing.inj hw ▸ hv⟩
  | cons f fs =>
    obtain ⟨hf, hfs⟩ := List.forall_mem_cons.mp hf
    cases f with
    | list items =>
      obtain rfl := Option.some.inj h
      exact ⟨List.forall_mem_cons.mpr ⟨List.forall_mem_cons.mpr ⟨hv, hf⟩, hfs⟩, nofun⟩
    | entry entries k =>
      obtain rfl := Option.some.inj h
      exact ⟨List.forall_mem_cons.mpr ⟨List.forall_mem_cons.mpr ⟨⟨⟨k, rfl⟩, hv⟩, hf⟩, hfs⟩, nofun⟩
    | map entries => nomatch h

theorem IsData.begin (hr : r.IsData) (ht : t.IsData) (h : r.begin t = some s) : s.IsData := by
  cases t with
  | atom v => exact isData_take hr.frames (ht v rfl) h
  | openList =>
    obtain rfl := Option.some.inj h
    exact ⟨List.forall_mem_cons.mpr ⟨by simp [Frame.IsData], hr.frames⟩, nofun⟩
  | openMap =>
    obtain rfl := Option.some.inj h
    exact ⟨List.forall_mem_cons.mpr ⟨by simp [Frame.IsData], hr.frames⟩, nofun⟩
  | _ => nomatch h

theorem IsData.key (hr : r.IsData) {k : String} (h : r.key k = some s) : s.IsData := by
  obtain ⟨_ | ⟨f, fs⟩, p⟩ := r
  · nomatch h
  · cases f with
    | map entries =>
      obtain rfl := Option.some.inj h
      obtain ⟨hf, hfs⟩ := List.forall_mem_cons.mp hr.frames
      exact ⟨List.forall_mem_cons.mpr ⟨hf, hfs⟩, nofun⟩
    | _ => nomatch h

theorem IsData.close (hr : r.IsData) (h : r.close t = some s) : s.IsData := by
  obtain ⟨_ | ⟨f, fs⟩, p⟩ := r
  · cases t <;> nomatch h
  · obtain ⟨hf, hfs⟩ := List.forall_mem_cons.mp hr.frames
    cases f with
    | list items =>
      cases t with
      | closeList =>
        exact isData_take hfs (.list fun v hv => hf v (List.mem_reverse.mp hv)) h
      | _ => nomatch h
    | map entries =>
      cases t with
      | closeMap =>
        exact isData_take hfs (isData_ofList fun e he => hf e (List.mem_reverse.mp he)) h
      | _ => nomatch h
    | entry entries k => cases t <;> nomatch h

theorem IsData.step (hr : r.IsData) (ht : t.IsData) (h : r.step t = some s) : s.IsData := by
  revert h
  fun_cases Reading.step r t
  all_goals intro h
  -- The place may be any; what is open stays data whichever step is taken.
  case case1 | case3 => exact hr.begin ht h
  case case2 | case4 | case11 => exact hr.close h
  case case5 | case6 => exact hr.key h
  case case7 | case8 | case9 => exact Option.some.inj h ▸ ⟨hr.frames, nofun⟩
  case case10 | case12 => nomatch h

theorem IsData.steps (hr : r.IsData) {ts : List Token} (ht : ∀ t ∈ ts, t.IsData)
    (h : r.steps ts = some s) : s.IsData := by
  induction ts generalizing r with
  | nil => exact Option.some.inj h ▸ hr
  | cons t ts ih =>
    obtain ⟨ht, hts⟩ := List.forall_mem_cons.mp ht
    obtain ⟨r', hr', h⟩ := Option.bind_eq_some_iff.mp h
    exact ih (hr.step ht hr') hts h

end Reading

end BuildingQuery.Json
