import BuildingQuery.Advice
import BuildingQuery.Proofs.Ordered
import Mathlib

/-! Which known names are suggested for a name that is not known. All known names stand in one row,
first those that are close and then the others; the names suggested are the first of the row. -/

namespace BuildingQuery.Similarity

variable {wanted a b : String} {known : List String}

/-- The share of a known name and a wanted one that is in common blocks. -/
def similarity (wanted known : String) : ℚ := (ratio wanted known).num / (ratio wanted known).den

abbrev IsClose (wanted known : String) : Prop := 2 / 5 ≤ similarity wanted known

theorem ratio_den_pos (wanted known : String) : 0 < (ratio wanted known).den := by
  simp only [ratio]
  split
  · exact Nat.one_pos
  case isFalse h => exact Nat.pos_of_ne_zero h

theorem isClose_iff (wanted known : String) :
    (ratio wanted known).isClose = true ↔ IsClose wanted known := by
  have hden : (0 : ℚ) < (ratio wanted known).den := by exact_mod_cast ratio_den_pos wanted known
  rw [Ratio.isClose, decide_eq_true_eq, IsClose, similarity, div_le_div_iff₀ (by norm_num) hden,
    mul_comm _ (5 : ℚ)]
  norm_cast

theorem less_iff (wanted a b : String) : (ratio wanted a).less (ratio wanted b) = true ↔
    similarity wanted a < similarity wanted b := by
  have ha : (0 : ℚ) < (ratio wanted a).den := by exact_mod_cast ratio_den_pos wanted a
  have hb : (0 : ℚ) < (ratio wanted b).den := by exact_mod_cast ratio_den_pos wanted b
  rw [Ratio.less, decide_eq_true_eq, similarity, similarity, div_lt_div_iff₀ ha hb]
  norm_cast

/-- Close names stand before all others, the more similar ones first, and equally similar ones
against the order of their characters. The others stand in the order of theirs. -/
inductive Precedes (wanted a b : String) : Prop where
  | closer (hb : IsClose wanted b) (h : similarity wanted b < similarity wanted a)
  | tied (hb : IsClose wanted b) (h : similarity wanted b = similarity wanted a) (hlt : b < a)
  | close (ha : IsClose wanted a) (hb : ¬ IsClose wanted b)
  | others (ha : ¬ IsClose wanted a) (hb : ¬ IsClose wanted b) (hlt : a < b)

/-- What close names are sorted by, the greatest first. -/
def rank (wanted known : String) : ℚ ×ₗ String := toLex (similarity wanted known, known)

theorem precedes_of_rank_lt (hb : IsClose wanted b) (h : rank wanted b < rank wanted a) :
    Precedes wanted a b := by
  rcases Prod.Lex.toLex_lt_toLex.mp h with h | ⟨h, hlt⟩
  · exact .closer hb h
  · exact .tied hb h hlt

theorem close_eq (wanted : String) (known : List String) :
    close wanted known = (known.filter fun k => IsClose wanted k).mergeSort
      fun a b => rank wanted b ≤ rank wanted a := by
  have hfilter : (known.map fun k => (ratio wanted k, k)).filter (·.1.isClose) =
      (known.filter fun k => IsClose wanted k).map fun k => (ratio wanted k, k) := by
    rw [List.filter_map]
    congr 2
    funext k
    rw [Function.comp_apply, Bool.eq_iff_iff, isClose_iff, decide_eq_true_eq]
  have hbefore : ∀ a b : String,
      decide (rank wanted b ≤ rank wanted a) = ((ratio wanted b).less (ratio wanted a) ||
        (!(ratio wanted a).less (ratio wanted b) && decide (b ≤ a))) := by
    intro a b
    rw [Bool.eq_iff_iff, decide_eq_true_eq, rank, rank, Prod.Lex.toLex_le_toLex]
    simp only [Bool.or_eq_true, Bool.and_eq_true, Bool.not_eq_true', decide_eq_true_eq, less_iff,
      ← Bool.not_eq_true, not_lt]
    constructor
    · rintro (h | ⟨h, hle⟩)
      · exact .inl h
      · exact .inr ⟨h.le, hle⟩
    · rintro (h | ⟨h, hle⟩)
      · exact .inl h
      · exact h.lt_or_eq.imp_right fun h => ⟨h, hle⟩
  simp only [close]
  rw [hfilter, ← List.map_mergeSort fun a _ b _ => hbefore a b, List.map_map]
  exact List.map_id _

theorem close_perm (wanted : String) (known : List String) :
    (close wanted known).Perm (known.filter fun k => IsClose wanted k) :=
  close_eq wanted known ▸ List.mergeSort_perm _ _

theorem mem_close : a ∈ close wanted known ↔ a ∈ known ∧ IsClose wanted a := by
  simp [(close_perm wanted known).mem_iff]

theorem close_sorted (hn : known.Nodup) : (close wanted known).Pairwise (Precedes wanted) := by
  have hsorted := @List.pairwise_mergeSort String
    (fun a b => decide (rank wanted b ≤ rank wanted a))
    (fun a b c hab hbc => by simp only [decide_eq_true_eq] at *; exact hbc.trans hab)
    (fun a b => by simp only [Bool.or_eq_true, decide_eq_true_eq]; exact le_total _ _)
    (known.filter fun k => IsClose wanted k)
  rw [← close_eq] at hsorted
  have hne : (close wanted known).Pairwise (· ≠ ·) := (close_perm _ _).nodup_iff.mpr (hn.filter _)
  refine (hsorted.and hne).imp_of_mem fun _ hb hab => ?_
  refine precedes_of_rank_lt (mem_close.mp hb).2 (lt_of_le_of_ne (of_decide_eq_true hab.1) ?_)
  intro heq
  exact hab.2 (congrArg (fun p => (ofLex p).2) heq).symm

/-- All known names in a row. -/
def ranked (wanted : String) (known : List String) : List String :=
  close wanted known ++ known.filter fun k => ¬ IsClose wanted k

theorem ranked_perm (wanted : String) (known : List String) :
    (ranked wanted known).Perm known := by
  have hsplit := List.filter_append_perm (fun k => decide (IsClose wanted k)) known
  simp only [← decide_not] at hsplit
  exact ((close_perm wanted known).append_right _).trans hsplit

/-- Names that are in the order of their characters take the places that close ones leave. -/
theorem ranked_sorted (hk : known.Pairwise (· < ·)) :
    (ranked wanted known).Pairwise (Precedes wanted) := by
  have hn : known.Nodup := hk.imp fun h => h.ne
  have hother : ∀ b ∈ known.filter fun k => ¬ IsClose wanted k, ¬ IsClose wanted b := by
    intro b hb
    exact of_decide_eq_true (List.mem_filter.mp hb).2
  refine List.pairwise_append.mpr ⟨close_sorted hn, ?_, fun a ha b hb => ?_⟩
  · exact (hk.filter _).imp_of_mem fun ha hb hlt => .others (hother _ ha) (hother _ hb) hlt
  · exact .close (mem_close.mp ha).2 (hother b hb)

/-- Where there are enough close names no other counts, and elsewhere all close ones are taken. -/
theorem suggested_eq_take (wanted : String) (known : List String) :
    suggested wanted known = (ranked wanted known).take limit := by
  rw [suggested, ranked]
  by_cases hlen : (close wanted known).length ≤ limit
  · have hrest : known.filter (!(close wanted known).contains ·) =
        known.filter fun k => ¬ IsClose wanted k := by
      refine List.filter_congr fun k hk => ?_
      rw [Bool.eq_iff_iff]
      simp [mem_close, hk]
    rw [List.take_of_length_le hlen, hrest]
  · have hfull : ((close wanted known).take limit).length = limit :=
      List.length_take_of_le (by omega)
    rw [List.take_append_of_le_length (by omega), List.take_append_of_le_length (by omega),
      List.take_take, Nat.min_self]

/-- The names picked out of the known ones are the first in a row of them all. -/
structure Suggests (wanted : String) (known picked : List String) : Prop where
  nodup : picked.Nodup
  subset : picked ⊆ known
  length_eq : picked.length = min 5 known.length
  sorted : picked.Pairwise (Precedes wanted)
  first : ∀ a ∈ picked, ∀ b ∈ known, b ∉ picked → Precedes wanted a b

theorem suggests_of_row {row : List String} (hp : row.Perm known) (hn : known.Nodup)
    (hs : row.Pairwise (Precedes wanted)) : Suggests wanted known (row.take limit) where
  nodup := (hp.nodup_iff.mpr hn).sublist (List.take_sublist _ _)
  subset := fun _ ha => hp.mem_iff.mp (List.mem_of_mem_take ha)
  length_eq := by rw [List.length_take, hp.length_eq, limit]
  sorted := hs.sublist (List.take_sublist _ _)
  first := by
    intro a ha b hb hnot
    rw [← List.take_append_drop limit row, List.pairwise_append] at hs
    have hrow : b ∈ row.take limit ++ row.drop limit := by
      rw [List.take_append_drop]
      exact hp.mem_iff.mpr hb
    exact hs.2.2 a ha b ((List.mem_append.mp hrow).resolve_left hnot)

theorem suggests_suggested (wanted : String) (hn : known.Nodup) :
    Suggests wanted known (suggested wanted (Ordered.texts known)) := by
  have hp := Ordered.texts_perm known
  rw [suggested_eq_take]
  exact suggests_of_row ((ranked_perm wanted _).trans hp) hn
    (ranked_sorted (Ordered.texts_sorted hn))

/-- There are fewer names than known ones exactly if one is left out. -/
theorem Suggests.length_lt_iff {picked : List String} (h : Suggests wanted known picked)
    (hn : known.Nodup) : picked.length < known.length ↔ ∃ b ∈ known, b ∉ picked := by
  constructor
  · intro hlt
    by_contra! hall
    exact absurd (List.subperm_of_subset hn hall).length_le (Nat.not_le.mpr hlt)
  · rintro ⟨b, hb, hnot⟩
    refine lt_of_le_of_ne (List.subperm_of_subset h.nodup h.subset).length_le fun heq => hnot ?_
    exact ((List.subperm_of_subset h.nodup h.subset).perm_of_length_le heq.ge).mem_iff.mpr hb

end BuildingQuery.Similarity

namespace BuildingQuery.Advice

open Similarity

/-- The text of a suggestion lists the first five known names, or all if there are fewer: the close
ones by falling similarity, then others in alphabetical order, so that no name left out is close and
more similar than a listed one. Points at the end tell that a name is left out. -/
theorem suggestion_ranks {known : List String} (hn : known.Nodup) (wanted : String) :
    Suggests wanted known (suggested wanted (Ordered.texts known)) ∧
      suggestion wanted known =
        if known = [] then "The model contains none"
        else "Available: " ++ ", ".intercalate (suggested wanted (Ordered.texts known)) ++
          if ∃ b ∈ known, b ∉ suggested wanted (Ordered.texts known) then "..." else "" := by
  have hpicked := suggests_suggested wanted hn
  refine ⟨hpicked, ?_⟩
  have hlen := (Ordered.texts_perm known).length_eq
  have hempty : (Ordered.texts known).isEmpty = true ↔ known = [] := by
    rw [List.isEmpty_iff, ← List.length_eq_zero_iff, hlen, List.length_eq_zero_iff]
  simp only [suggestion, hempty, hlen, hpicked.length_lt_iff hn]

/-- Names of sets, three of which are close to a misspelled one. -/
def setNames : List String :=
  ["Alarm", "Fire", "Pset_Door", "Pset_Wall", "Pset_WallCommon", "Qto_Slab", "Zones"]

theorem suggestion_ranks_misspelled :
    setNames.Nodup ∧ Precedes "Pset_Wal" "Pset_Wall" "Pset_WallCommon" ∧
      suggestion "Pset_Wal" setNames =
        "Available: Pset_Wall, Pset_WallCommon, Pset_Door, Alarm, Fire..." := by
  have hn : setNames.Nodup := by decide
  have hrow : Ordered.texts setNames = setNames := List.mergeSort_of_pairwise (by decide)
  have hpicked : suggested "Pset_Wal" setNames =
      ["Pset_Wall", "Pset_WallCommon", "Pset_Door", "Alarm", "Fire"] := by cbv
  obtain ⟨hranks, htext⟩ := suggestion_ranks hn "Pset_Wal"
  rw [hrow, hpicked] at hranks htext
  refine ⟨hn, (List.pairwise_cons.mp hranks.sorted).1 _ (by simp), htext.trans ?_⟩
  decide +kernel

end BuildingQuery.Advice
