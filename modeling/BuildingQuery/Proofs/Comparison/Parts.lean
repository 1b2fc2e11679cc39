import BuildingQuery.Comparison
import BuildingQuery.Proofs.Pattern.Splits

/-! Comparisons with a pattern that look for a part of a text. The stars that are added to the pattern
leave room for the rest of the text, whatever wildcards the pattern itself starts or ends with. -/

namespace BuildingQuery

namespace Pattern

variable {c s : String}

theorem hasWildcard_append (s t : String) :
    hasWildcard (s ++ t) = (hasWildcard s || hasWildcard t) := by
  simp only [hasWildcard, String.toList_append, List.any_append]

theorem accepts_of_hasWildcard (hc : hasWildcard c = true) : accepts c s = glob c s := by
  rw [accepts, if_pos hc]

theorem glob_star_append_iff : glob ("*" ++ c) s = true ↔ ∃ u w, s = u ++ w ∧ glob c w = true := by
  simp only [glob_append_iff, glob_star, true_and]

theorem glob_append_star_iff : glob (c ++ "*") s = true ↔ ∃ u w, s = u ++ w ∧ glob c u = true := by
  simp only [glob_append_iff, glob_star, and_true]

theorem glob_surrounded_iff :
    glob ("*" ++ c ++ "*") s = true ↔ ∃ u t w, s = u ++ t ++ w ∧ glob c t = true := by
  rw [glob_append_star_iff]
  constructor
  · rintro ⟨x, w, rfl, hx⟩
    obtain ⟨u, t, rfl, ht⟩ := glob_star_append_iff.mp hx
    exact ⟨u, t, w, rfl, ht⟩
  · rintro ⟨u, t, w, rfl, ht⟩
    exact ⟨u ++ t, w, rfl, glob_star_append_iff.mpr ⟨u, t, rfl, ht⟩⟩

end Pattern

namespace Comparison

open Pattern

/-- The comparisons that take a pattern for the whole text or for a part of it. -/
def looksForParts : List Comparison := [equals, contains, notContains, startsWith, endsWith]

/-- What these comparisons say of a value and a pattern; a value can be missing. -/
structure FindsParts (c : String) (value : Option String) (holds : Comparison → Bool) : Prop where
  equals : holds .equals = true ↔ ∃ s, value = some s ∧ glob c s = true
  contains : holds .contains = true ↔ ∃ u s w, value = some (u ++ s ++ w) ∧ glob c s = true
  startsWith : holds .startsWith = true ↔ ∃ s w, value = some (s ++ w) ∧ glob c s = true
  endsWith : holds .endsWith = true ↔ ∃ u s, value = some (u ++ s) ∧ glob c s = true
  /-- Of a missing value neither this holds nor what it denies. -/
  notContains : holds .notContains = (value.isSome && !holds .contains)

variable {c : String} {value : Option String} {holds : Comparison → Bool}

theorem FindsParts.ends_of_equals (h : FindsParts c value holds) (he : holds .equals = true) :
    holds .startsWith = true ∧ holds .endsWith = true := by
  obtain ⟨s, hs, hc⟩ := h.equals.mp he
  constructor
  · exact h.startsWith.mpr ⟨s, "", by rw [hs, String.append_empty], hc⟩
  · exact h.endsWith.mpr ⟨"", s, by rw [hs, String.empty_append], hc⟩

theorem FindsParts.contains_of_startsWith (h : FindsParts c value holds)
    (hs : holds .startsWith = true) : holds .contains = true := by
  obtain ⟨s, w, hv, hc⟩ := h.startsWith.mp hs
  exact h.contains.mpr ⟨"", s, w, by rw [hv, String.empty_append], hc⟩

theorem FindsParts.contains_of_endsWith (h : FindsParts c value holds)
    (he : holds .endsWith = true) : holds .contains = true := by
  obtain ⟨u, s, hv, hc⟩ := h.endsWith.mp he
  exact h.contains.mpr ⟨u, s, "", by rw [hv, String.append_empty], hc⟩

/-- The comparisons of a value with a pattern, by the pattern that each tries on the whole value. -/
def triesPattern (c : String) (value : Option String) : Comparison → Bool
  | .equals => value.any (glob c)
  | .contains => value.any (glob ("*" ++ c ++ "*"))
  | .notContains => value.any fun s => !glob ("*" ++ c ++ "*") s
  | .startsWith => value.any (glob (c ++ "*"))
  | .endsWith => value.any (glob ("*" ++ c))
  | _ => false

theorem holdsOfText_eq_triesPattern (hc : hasWildcard c = true) (value : Option String)
    {op : Comparison} (hop : op ∈ looksForParts) :
    op.holdsOfText value c = .ok (triesPattern c value op) := by
  have hstart : hasWildcard (c ++ "*") = true := by rw [hasWildcard_append, hc, Bool.true_or]
  have hend : hasWildcard ("*" ++ c) = true := by rw [hasWildcard_append, hc, Bool.or_true]
  have hboth : hasWildcard ("*" ++ c ++ "*") = true := by
    rw [hasWildcard_append, hend, Bool.true_or]
  simp only [looksForParts, List.mem_cons, List.not_mem_nil, or_false] at hop
  cases value with
  | none => rcases hop with rfl | rfl | rfl | rfl | rfl <;> rfl
  | some s =>
    rcases hop with rfl | rfl | rfl | rfl | rfl <;>
      simp [holdsOfText, triesPattern, hc, accepts_of_hasWildcard, hstart, hend, hboth, pure,
        Except.pure]

theorem findsParts_triesPattern (c : String) (value : Option String) :
    FindsParts c value (triesPattern c value) where
  equals := by simp [triesPattern, Option.any_eq_true]
  contains := by
    cases value with
    | none => simp [triesPattern]
    | some s => simpa [triesPattern] using glob_surrounded_iff
  startsWith := by
    cases value with
    | none => simp [triesPattern]
    | some s => simpa [triesPattern] using glob_append_star_iff
  endsWith := by
    cases value with
    | none => simp [triesPattern]
    | some s => simpa [triesPattern] using glob_star_append_iff
  notContains := by cases value <;> rfl

/-- Compared with a pattern, a text equals it, contains it, starts or ends with it exactly if the
whole of it, some part, some start or some end is covered by the pattern. To contain it is the
opposite of not to contain it, and a missing value does neither. -/
theorem holdsOfText_pattern (hc : hasWildcard c = true) (value : Option String) :
    ∃ holds : Comparison → Bool,
      (∀ op ∈ looksForParts, op.holdsOfText value c = .ok (holds op)) ∧
        FindsParts c value holds ∧
        (holds .equals = true → holds .startsWith = true ∧ holds .endsWith = true) ∧
        (holds .startsWith = true ∨ holds .endsWith = true → holds .contains = true) := by
  have hfinds := findsParts_triesPattern c value
  refine ⟨_, fun op => holdsOfText_eq_triesPattern hc value, hfinds, hfinds.ends_of_equals, ?_⟩
  rintro (hs | he)
  · exact hfinds.contains_of_startsWith hs
  · exact hfinds.contains_of_endsWith he

theorem holdsOfText_pattern_wall :
    hasWildcard "Wall ?00" = true ∧
      contains.holdsOfText (some "Exterior Wall 200") "Wall ?00" = .ok true ∧
      notContains.holdsOfText (some "Exterior Wall 200") "Wall ?00" = .ok false ∧
      endsWith.holdsOfText (some "Exterior Wall 200") "Wall ?00" = .ok true := by
  have hc : hasWildcard "Wall ?00" = true := by decide
  obtain ⟨holds, hok, hfinds, -, hpart⟩ := holdsOfText_pattern hc (some "Exterior Wall 200")
  have hend : holds .endsWith = true :=
    hfinds.endsWith.mpr ⟨"Exterior ", "Wall 200", rfl, by decide +kernel⟩
  have hcontains : holds .contains = true := hpart (.inr hend)
  have hnot : holds .notContains = false := by
    rw [hfinds.notContains, hcontains]
    rfl
  refine ⟨hc, ?_, ?_, ?_⟩
  · rw [hok .contains (by decide), hcontains]
  · rw [hok .notContains (by decide), hnot]
  · rw [hok .endsWith (by decide), hend]

/-- A missing value neither contains a pattern nor does not contain it. -/
theorem notContains_not_opposite :
    ¬ ∀ (value : Option String) (c : String), hasWildcard c = true →
      ∃ b, contains.holdsOfText value c = .ok b ∧ notContains.holdsOfText value c = .ok !b := by
  intro h
  obtain ⟨b, hb, hn⟩ := h none "Wall*" (by decide)
  cases hb
  nomatch hn

end Comparison

end BuildingQuery
