import BuildingQuery.Index
import BuildingQuery.Proofs.Hierarchy.Chain

/-! Subtypes of subtypes. A type has the supertypes of its supertypes as far as these are written in
one way: where a climb meets a name in another spelling than that of the table, what lies above the
name is lost. -/

namespace BuildingQuery

namespace Hierarchy

variable {h : Hierarchy} {a b c s t up top name : String}

/-- What is above a type is above its subtypes as well. -/
def Inherits (h : Hierarchy) : Prop :=
  ∀ a b c, h.isSubtype a b = true → h.isSubtype b c = true → h.isSubtype a c = true

/-- No two names of the table are the same up to case. -/
def NamesApart (h : Hierarchy) : Prop := (h.parents.keys.map Text.upper).Nodup

/-- Supertypes that the table has among its names are written as these. -/
def SpellsSupertypes (h : Hierarchy) : Prop := ∀ p ∈ h.parents, ∀ up ∈ p.2, h.resolve up = up

theorem isSubtype_congr (hu : Text.upper s = Text.upper t) : h.isSubtype a s = h.isSubtype a t := by
  rw [isSubtype, isSubtype, hu]

theorem isSubtype_of_mem (hs : s ∈ h.chain t) : h.isSubtype t s = true :=
  isSubtype_iff.mpr ⟨s, hs, rfl⟩

theorem resolve_mem_chain (h : Hierarchy) (t : String) : h.resolve t ∈ h.chain t :=
  mem_chain_iff.mpr .refl

theorem parent?_mem_chain (hs : s ∈ h.chain t) (hup : h.parent? s = some up) : up ∈ h.chain t :=
  mem_chain_iff.mpr ((mem_chain_iff.mp hs).tail hup)

/-- Above a name in the table's own spelling nothing is lost. -/
theorem chain_subset_of_mem (ht : t ∈ h.chain a) (hr : h.resolve t = t) : h.chain t ⊆ h.chain a := by
  intro s hs
  rw [mem_chain_iff] at ht hs ⊢
  exact ht.trans (hr ▸ hs)

theorem inherits_iff_chains : h.Inherits ↔
    ∀ a, ∀ t ∈ h.chain a, h.resolve t ≠ t → ∀ s ∈ h.chain t, h.isSubtype a s = true := by
  constructor
  · intro hi a t ht _ s hs
    exact hi a t s (isSubtype_of_mem ht) (isSubtype_of_mem hs)
  · intro hall a b c hab hbc
    obtain ⟨t, ht, htb⟩ := isSubtype_iff.mp hab
    obtain ⟨s, hs, hsc⟩ := isSubtype_iff.mp hbc
    rw [← isSubtype_congr hsc]
    cases hb : h.contains b with
    | false =>
      rw [chain_of_not_contains hb, List.mem_singleton] at hs
      exact isSubtype_iff.mpr ⟨t, ht, htb.trans (congrArg Text.upper hs).symm⟩
    | true =>
      have hst : s ∈ h.chain t := by rwa [chain, resolve_congr htb hb]
      by_cases hr : h.resolve t = t
      · exact isSubtype_of_mem (chain_subset_of_mem ht hr hst)
      · exact hall a t ht hr s hst

theorem inherits_of_spellsSupertypes (hs : h.SpellsSupertypes) : h.Inherits := by
  rw [inherits_iff_chains]
  intro a t ht hr
  have hspelled : ∀ s ∈ h.chain a, h.resolve s = s := by
    intro s hmem
    rw [chain, ancestry, List.mem_reverse] at hmem
    exact forall_mem_climb (fun p hp up hup _ => hs p hp up hup) (h.resolve_resolve a) s hmem
  exact absurd (hspelled t ht) hr

/-- A type whose supertype is no name of the table has no further supertypes, whether the table has
the supertype in another spelling or not. -/
theorem chain_of_parent_not_mem (hname : h.resolve name = name) (hup : h.parent? name = some up)
    (hk : up ∉ h.parents.keys) : h.chain name = [up, name] := by
  have hne : up ≠ name := fun heq => hk (heq ▸ mem_keys_of_parent? hup)
  refine (isChain_iff.mp ⟨?_, ?_, ?_, ?_⟩).symm
  · rw [hname]
    rfl
  · simpa using hup
  · simpa using hne
  · intro s top hs htop
    obtain rfl : up = s := by simpa using hs
    exact absurd (mem_keys_of_parent? htop) hk

section NamesApart

variable (hn : h.NamesApart)

include hn

theorem eq_of_upper_eq (hs : s ∈ h.parents.keys) (ht : t ∈ h.parents.keys)
    (hu : Text.upper s = Text.upper t) : s = t := List.inj_on_of_nodup_map hn hs ht hu

theorem resolve_of_mem_keys (ht : t ∈ h.parents.keys) : h.resolve t = t :=
  eq_of_upper_eq hn (resolve_mem_of_contains (contains_of_mem ht)) ht (h.upper_resolve t)

/-- If directly above a name there is no more than the name itself or the one below it, then there is
no more above it at all. -/
theorem upper_of_mem_chain (hup : h.parent? name = some t)
    (htop : ∀ top, h.parent? (h.resolve t) = some top →
      Text.upper top = Text.upper t ∨ Text.upper top = Text.upper name) (hs : s ∈ h.chain t) :
    Text.upper s = Text.upper t ∨ Text.upper s = Text.upper name := by
  rw [mem_chain_iff] at hs
  induction hs with
  | refl => exact .inl (h.upper_resolve t)
  | tail _ hs' ih =>
    have hk := mem_keys_of_parent? hs'
    rcases ih with hu | hu
    · have hcontains := (contains_congr hu).symm.trans (contains_of_mem hk)
      rw [← resolve_of_mem_keys hn hk, resolve_congr hu hcontains] at hs'
      exact htop _ hs'
    · obtain rfl := eq_of_upper_eq hn hk (mem_keys_of_parent? hup) hu
      obtain rfl := Option.some.inj (hup.symm.trans hs')
      exact .inl rfl

/-- Every climb that meets a name in another spelling ends there, so that what is above the name
must be among the names already. -/
theorem inherits_iff_supertypes : h.Inherits ↔
    ∀ name up top, h.parent? name = some up → h.resolve up ≠ up →
      h.parent? (h.resolve up) = some top →
        Text.upper top = Text.upper up ∨ Text.upper top = Text.upper name := by
  constructor
  · intro hi name up top hup hr htop
    have hname := resolve_of_mem_keys hn (mem_keys_of_parent? hup)
    have hk : up ∉ h.parents.keys := fun hk => hr (resolve_of_mem_keys hn hk)
    have hchain := chain_of_parent_not_mem hname hup hk
    have hsub : h.isSubtype name up = true := isSubtype_of_mem (by simp [hchain])
    have hmem := parent?_mem_chain (h.resolve_mem_chain up) htop
    obtain ⟨s, hs, hu⟩ := isSubtype_iff.mp (hi name up top hsub (isSubtype_of_mem hmem))
    simp only [hchain, List.mem_cons, List.not_mem_nil, or_false] at hs
    rcases hs with rfl | rfl
    · exact .inl hu.symm
    · exact .inr hu.symm
  · intro hall
    rw [inherits_iff_chains]
    intro a t ht hr s hs
    -- The climb does not start at the name, so that the name is the supertype of one below it.
    rcases (mem_chain_iff.mp ht).cases_tail with heq | ⟨name, hname, hup⟩
    · exact absurd (heq ▸ h.resolve_resolve a) hr
    · rcases upper_of_mem_chain hn hup (fun top => hall name t top hup hr) hs with hu | hu
      · exact isSubtype_iff.mpr ⟨t, ht, hu.symm⟩
      · exact isSubtype_iff.mpr ⟨name, mem_chain_iff.mpr hname, hu.symm⟩

end NamesApart

/-- To pass on supertypes is to find, for a type, all that is found for its subtypes. -/
theorem inherits_iff_lookups : h.Inherits ↔
    ∀ ix : Index, ix.hierarchy = h → ∀ b c, h.isSubtype b c = true →
      ix.idsOfType b true ⊆ ix.idsOfType c true := by
  constructor
  · rintro hi ix rfl b c hbc id hid
    obtain ⟨p, hp, hmem⟩ := List.mem_flatMap.mp hid
    obtain ⟨hp, hb⟩ := List.mem_filter.mp hp
    exact List.mem_flatMap.mpr ⟨p, List.mem_filter.mpr ⟨hp, hi _ _ _ hb hbc⟩, hmem⟩
  · intro hall a b c hab hbc
    have hsub := hall { elements := [], byType := [(a, [1])], hierarchy := h } rfl b c hbc
    have hmem : (1 : Int) ∈ Index.idsOfType
        { elements := [], byType := [(a, [1])], hierarchy := h } b true := by
      simp [Index.idsOfType, hab]
    simpa [Index.idsOfType] using hsub hmem

/-- Subtypes have what is above their supertypes, and lookups by a type find what lookups by its
subtypes find, exactly if no climb loses anything above a name that it meets in another spelling
than the table's. A type whose supertype is spelled as the table spells it has all that is above the
supertype; with any other spelling it has the supertype alone. -/
theorem inherits_iff (h : Hierarchy) :
    (h.Inherits ↔ ∀ a, ∀ t ∈ h.chain a, h.resolve t ≠ t →
        ∀ s ∈ h.chain t, h.isSubtype a s = true) ∧
      (h.Inherits ↔ ∀ ix : Index, ix.hierarchy = h → ∀ b c, h.isSubtype b c = true →
        ix.idsOfType b true ⊆ ix.idsOfType c true) ∧
      (h.NamesApart → (h.Inherits ↔ ∀ name up top, h.parent? name = some up →
        h.resolve up ≠ up → h.parent? (h.resolve up) = some top →
          Text.upper top = Text.upper up ∨ Text.upper top = Text.upper name)) ∧
      (h.SpellsSupertypes → h.Inherits) ∧
      ∀ name up, h.resolve name = name → h.parent? name = some up →
        (h.resolve up = up → h.chain up ⊆ h.chain name) ∧
          (up ∉ h.parents.keys → h.chain name = [up, name]) := by
  refine ⟨inherits_iff_chains, inherits_iff_lookups, inherits_iff_supertypes,
    inherits_of_spellsSupertypes, fun name up hname hup => ⟨fun hr => ?_, ?_⟩⟩
  · have hmem := h.resolve_mem_chain name
    rw [hname] at hmem
    exact chain_subset_of_mem (parent?_mem_chain hmem hup) hr
  · exact chain_of_parent_not_mem hname hup

/-- A panel is declared as a wall, in the spelling of model files. -/
def panels : Hierarchy where
  parents := [
    ("IfcProduct", none),
    ("IfcWall", some "IfcProduct"),
    ("IfcPanel", some "IFCWALL")]

theorem panel_no_product : ¬ panels.Inherits ∧
    panels.isSubtype "IfcPanel" "IfcWall" = true ∧
      panels.isSubtype "IfcWall" "IfcProduct" = true ∧
      panels.isSubtype "IfcPanel" "IfcProduct" = false := by
  have hwall : panels.isSubtype "IfcPanel" "IfcWall" = true := by decide +kernel
  have hproduct : panels.isSubtype "IfcWall" "IfcProduct" = true := by decide +kernel
  have hlost : panels.isSubtype "IfcPanel" "IfcProduct" = false := by decide +kernel
  refine ⟨fun hi => ?_, hwall, hproduct, hlost⟩
  simpa [hlost] using hi _ _ _ hwall hproduct

end Hierarchy

end BuildingQuery
