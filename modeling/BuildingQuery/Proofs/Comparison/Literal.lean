import BuildingQuery.Comparison
import BuildingQuery.Proofs.Pattern.Splits
import BuildingQuery.Proofs.Text.Lower

/-! Comparisons that look for a text without wildcards. They compare lower forms that are taken apart,
so a text is missed where it literally stands if a capital sigma in it ends a word there but not in
the text alone, or the other way round. -/

namespace BuildingQuery

open Text

theorem hasInfix_iff {part s : List Char} : hasInfix part s = true ↔ part <:+: s := by
  rw [hasInfix, Pattern.anySuffix_iff, List.infix_iff_prefix_suffix]
  simp only [List.isPrefixOf_iff_prefix, and_comm]

namespace Comparison

open Pattern

/-- What a text without wildcards is looked for by, in the lower form of a value. -/
def looksForPlain (part low : List Char) : Comparison → Bool
  | contains => hasInfix part low
  | notContains => !hasInfix part low
  | startsWith => part.isPrefixOf low
  | endsWith => part.isSuffixOf low
  | _ => false

theorem holdsOfText_eq_looksForPlain {s : String} (hs : hasWildcard s = false) (value : String)
    {op : Comparison} (hop : op ∈ [contains, notContains, startsWith, endsWith]) :
    op.holdsOfText (some value) s =
      .ok (looksForPlain (lowerChars s.toList) (lowerChars value.toList) op) := by
  simp only [List.mem_cons, List.not_mem_nil, or_false] at hop
  rcases hop with rfl | rfl | rfl | rfl <;>
    simp [holdsOfText, looksForPlain, hs, pure, Except.pure]

/-- A text without wildcards is found at the start and at the end of a value just if the value there
keeps its sigmas, and anywhere in the value if the value keeps them. Whether a value does not contain
it is the opposite of whether it does. So a text without a capital sigma is found wherever it stands. -/
theorem holdsOfText_literal {s : String} (hs : hasWildcard s = false) (u w : String) :
    ∃ starts ends found,
      startsWith.holdsOfText (some (s ++ w)) s = .ok starts ∧
      (starts = true ↔ KeepsSigmas [] s.toList w.toList) ∧
      endsWith.holdsOfText (some (u ++ s)) s = .ok ends ∧
      (ends = true ↔ KeepsSigmas u.toList s.toList []) ∧
      contains.holdsOfText (some (u ++ s ++ w)) s = .ok found ∧
      notContains.holdsOfText (some (u ++ s ++ w)) s = .ok !found ∧
      (KeepsSigmas u.toList s.toList w.toList → found = true) ∧
      ('Σ' ∉ s.toList → starts = true ∧ ends = true ∧ found = true) := by
  have hstarts : looksForPlain (lowerChars s.toList) (lowerChars (s ++ w).toList) startsWith = true ↔
      KeepsSigmas [] s.toList w.toList := by
    rw [looksForPlain, List.isPrefixOf_iff_prefix, String.toList_append, lowerChars_prefix_iff]
  have hends : looksForPlain (lowerChars s.toList) (lowerChars (u ++ s).toList) endsWith = true ↔
      KeepsSigmas u.toList s.toList [] := by
    rw [looksForPlain, List.isSuffixOf_iff_suffix, String.toList_append, lowerChars_suffix_iff]
  have hfound (h : KeepsSigmas u.toList s.toList w.toList) :
      looksForPlain (lowerChars s.toList) (lowerChars (u ++ s ++ w).toList) contains = true := by
    rw [looksForPlain, hasInfix_iff, String.toList_append, String.toList_append]
    exact lowerChars_infix_of_keepsSigmas _ _ _ h
  have hplain (value : String) {op : Comparison} := @holdsOfText_eq_looksForPlain s hs value op
  refine ⟨_, _, _, hplain _ (by simp), hstarts, hplain _ (by simp), hends, hplain _ (by simp),
    hplain _ (by simp), hfound, fun hsigma => ⟨?_, ?_, ?_⟩⟩
  · exact hstarts.mpr (keepsSigmas_of_not_mem hsigma _ _)
  · exact hends.mpr (keepsSigmas_of_not_mem hsigma _ _)
  · exact hfound (keepsSigmas_of_not_mem hsigma _ _)

/-- The sigma ends the word that is looked for, and also the word in a value with more words. -/
theorem holdsOfText_literal_storey :
    hasWildcard "ΟΡΟΦΟΣ" = false ∧
      startsWith.holdsOfText (some ("ΟΡΟΦΟΣ" ++ " Β")) "ΟΡΟΦΟΣ" = .ok true ∧
      endsWith.holdsOfText (some ("Α " ++ "ΟΡΟΦΟΣ")) "ΟΡΟΦΟΣ" = .ok true ∧
      contains.holdsOfText (some ("Α " ++ "ΟΡΟΦΟΣ" ++ " Β")) "ΟΡΟΦΟΣ" = .ok true ∧
      notContains.holdsOfText (some ("Α " ++ "ΟΡΟΦΟΣ" ++ " Β")) "ΟΡΟΦΟΣ" = .ok false := by
  have hs : hasWildcard "ΟΡΟΦΟΣ" = false := by decide
  have hkeeps (before after : List Char) (h : nextHasCase after = false) :
      KeepsSigmas before "ΟΡΟΦΟΣ".toList after := by
    refine (keepsSigmas_iff_of_once (p := "ΟΡΟΦΟ".toList) (q := []) (by decide) (by simp)).mpr ?_
    change endsWord ('Ο' :: _) after = endsWord ('Ο' :: _) []
    rw [endsWord, endsWord, nextHasCase_omicron, nextHasCase_omicron, h, nextHasCase_nil]
  obtain ⟨starts, ends, found, hstarts, hstart, hends, hend, hfound, hnot, hall, -⟩ :=
    holdsOfText_literal hs "Α " " Β"
  obtain rfl : starts = true := hstart.mpr (hkeeps _ _ (nextHasCase_blank _))
  obtain rfl : ends = true := hend.mpr (hkeeps _ _ nextHasCase_nil)
  obtain rfl : found = true := hall (hkeeps _ _ (nextHasCase_blank _))
  exact ⟨hs, hstarts, hends, hfound, hnot⟩

/-- The sigma ends the word that is looked for, but not the longer word of the value. -/
theorem literal_missed :
    hasWildcard "ΠΡΟΣ" = false ∧
      startsWith.holdsOfText (some ("ΠΡΟΣ" ++ "ΟΨΗ")) "ΠΡΟΣ" = .ok false ∧
      contains.holdsOfText (some ("" ++ "ΠΡΟΣ" ++ "ΟΨΗ")) "ΠΡΟΣ" = .ok false ∧
      notContains.holdsOfText (some ("" ++ "ΠΡΟΣ" ++ "ΟΨΗ")) "ΠΡΟΣ" = .ok true := by
  have hs : hasWildcard "ΠΡΟΣ" = false := by decide
  have hword : lowerChars "ΠΡΟΣ".toList = "προς".toList := by
    have hsigma : lowerAt ['Ο', 'Ρ', 'Π'] 'Σ' [] = ['ς'] := by
      rw [lowerAt, if_pos rfl, nextHasCase_omicron, nextHasCase_nil]
      rfl
    change ['π', 'ρ', 'ο'] ++ lowerAt ['Ο', 'Ρ', 'Π'] 'Σ' [] ++ [] = _
    rw [hsigma]
    rfl
  have hvalue : lowerChars "ΠΡΟΣΟΨΗ".toList = "προσοψη".toList := by
    have hsigma : lowerAt ['Ο', 'Ρ', 'Π'] 'Σ' ['Ο', 'Ψ', 'Η'] = ['σ'] := by
      rw [lowerAt, if_pos rfl, nextHasCase_omicron, nextHasCase_omicron]
      rfl
    change ['π', 'ρ', 'ο'] ++ lowerAt ['Ο', 'Ρ', 'Π'] 'Σ' ['Ο', 'Ψ', 'Η'] ++ ['ο', 'ψ', 'η'] = _
    rw [hsigma]
    rfl
  refine ⟨hs, ?_, ?_, ?_⟩ <;>
    rw [holdsOfText_eq_looksForPlain hs _ (by simp), hword]
  all_goals
    change Except.ok (looksForPlain _ (lowerChars "ΠΡΟΣΟΨΗ".toList) _) = _
    rw [hvalue]
    rfl

end Comparison

end BuildingQuery
