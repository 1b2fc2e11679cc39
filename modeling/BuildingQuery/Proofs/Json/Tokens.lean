import BuildingQuery.Proofs.Json.Strings
import BuildingQuery.Proofs.Number.Digits
import BuildingQuery.Value
import Mathlib.Data.List.Forall2

/-! The text of data, split into tokens again, whatever the indent. -/

namespace BuildingQuery.Json

open Number Text

section Lexer

abbrev EndsAtom : List Char → Prop := EndsRun isAtomChar

theorem isLayout_iff {c : Char} : isLayout c = true ↔ c = ' ' ∨ c = '\t' ∨ c = '\n' ∨ c = '\r' := by
  simp [isLayout, or_assoc]

theorem isAtomChar_of_isLayout {c : Char} (h : isLayout c = true) : isAtomChar c = false := by
  rcases isLayout_iff.mp h with rfl | rfl | rfl | rfl <;> rfl

theorem isLayout_of_mark? {c : Char} {t : Token} (h : mark? c = some t) : isLayout c = false := by
  unfold mark? at h
  split at h <;> first | rfl | nomatch h

theorem isAtomChar_of_mark? {c : Char} {t : Token} (h : mark? c = some t) :
    isAtomChar c = false := by
  unfold mark? at h
  split at h <;> first | rfl | nomatch h

theorem tokens?_layout {c : Char} (h : isLayout c = true) (s : List Char) :
    tokens? (c :: s) = tokens? s := by
  rw [tokens?, if_pos h]

theorem tokens?_mark {c : Char} {t : Token} (h : mark? c = some t) (s : List Char) :
    tokens? (c :: s) = (tokens? s).map (t :: ·) := by
  rw [tokens?, isLayout_of_mark? h, if_neg Bool.false_ne_true, h]

theorem tokens?_stringText (s : String) (rest : List Char) :
    tokens? ((stringText s).toList ++ rest) = (tokens? rest).map (.atom (.str s) :: ·) := by
  have htext : (stringText s).toList ++ rest =
      '"' :: (s.toList.flatMap escapedChar ++ '"' :: rest) := by
    simp [stringText]
  have hl : isLayout '"' = false := rfl
  have hm : mark? '"' = none := rfl
  have hs := splitString_flatMap s.toList rest
  rw [htext, tokens?, hl, if_neg Bool.false_ne_true, hm]
  simp only [if_true]
  split
  case h_1 hn =>
    rw [hs] at hn
    cases hn
  case h_2 pieces rest' hp =>
    rw [hs] at hp
    cases hp
    simp only [joinPieces?_flatMap, String.ofList_toList]

theorem tokens?_atom {a rest : List Char} {v : Value} (hne : a ≠ [])
    (ha : ∀ c ∈ a, isAtomChar c = true) (hv : (word? a).or (number? a) = some v)
    (hr : EndsAtom rest) : tokens? (a ++ rest) = (tokens? rest).map (.atom v :: ·) := by
  obtain ⟨c, a, rfl⟩ := List.exists_cons_of_ne_nil hne
  obtain ⟨hc, ha⟩ := List.forall_mem_cons.mp ha
  have hl : isLayout c = false :=
    Bool.eq_false_iff.mpr fun hl => by simp [isAtomChar_of_isLayout hl] at hc
  have hm : mark? c = none :=
    Option.eq_none_iff_forall_ne_some.mpr fun t hm => by simp [isAtomChar_of_mark? hm] at hc
  have hq : c ≠ '"' := by
    rintro rfl
    nomatch hc
  rw [List.cons_append, tokens?, hl, if_neg Bool.false_ne_true, hm]
  simp only [if_neg hq, takeWhile_append_of_endsRun ha hr, dropWhile_append_of_endsRun ha hr, hv]

end Lexer

section Numbers

theorem isAtomChar_of_isAsciiDigit {c : Char} (h : isAsciiDigit c = true) :
    isAtomChar c = true := by simp [isAtomChar, h]

/-- No word has a digit. -/
theorem word?_eq_none {s : List Char} (h : ∃ c ∈ s, isAsciiDigit c = true) : word? s = none := by
  have hs : ∀ t : String, t.toList.all (fun c => !isAsciiDigit c) = true →
      String.ofList s ≠ t := by
    rintro t ht rfl
    obtain ⟨c, hc, hd⟩ := h
    rw [String.toList_ofList, List.all_eq_true] at ht
    simpa [hd] using ht c hc
  rw [word?]
  split
  · exact absurd ‹_› (hs _ rfl)
  · exact absurd ‹_› (hs _ rfl)
  · exact absurd ‹_› (hs _ rfl)
  · exact absurd ‹_› (hs _ rfl)
  · exact absurd ‹_› (hs _ rfl)
  · exact absurd ‹_› (hs _ rfl)
  · rfl

/-- What a number may begin with: digits, the first of which is no zero unless it is the only
one. -/
structure IsWhole (ds : List Char) : Prop where
  ne_nil : ds ≠ []
  digits : ∀ c ∈ ds, isAsciiDigit c = true
  head : ds.head? = some '0' → ds.length = 1

theorem isWhole_digits (n : Nat) : IsWhole (digits n) where
  ne_nil := digits_ne_nil n
  digits _ := isAsciiDigit_of_mem_digits
  head h := by
    by_cases hn : n = 0
    · rw [hn]
      rfl
    · exact absurd h (head?_digits_ne hn)

def signText (negative : Bool) : List Char := if negative then ['-'] else []

theorem eq_minus_of_mem_signText {negative : Bool} {c : Char} (h : c ∈ signText negative) :
    c = '-' := by
  cases negative with
  | true => exact List.mem_singleton.mp h
  | false => nomatch h

/-- A number is read by what follows its first digits. -/
theorem number?_whole {ds : List Char} (hd : IsWhole ds) (negative : Bool) (rest : List Char) :
    EndsDigits rest → number? (signText negative ++ (ds ++ rest)) =
      match rest with
      | [] => some (.int (if negative then -(ofDigits (ds.map digitOf) : Int)
          else ofDigits (ds.map digitOf)))
      | '.' :: fraction =>
        if (splitDigits fraction).1.isEmpty then none
        else (decimal? negative (ds ++ rest)).map .float
      | _ => (decimal? negative (ds ++ rest)).map .float := by
  intro hr
  obtain ⟨d, ds, rfl⟩ := List.exists_cons_of_ne_nil hd.ne_nil
  have hfirst : isAsciiDigit d = true := hd.digits d List.mem_cons_self
  have hlead : (((d :: ds).map digitOf).head? == some 0 &&
      1 < ((d :: ds).map digitOf).length) = false := by
    have hone := hd.head
    by_cases hz : digitOf d = 0
    · rw [eq_zero_of_digitOf hfirst hz] at hone
      simpa using fun _ => hone
    · simp [hz]
  have haccepted : ¬ (((d :: ds).map digitOf).isEmpty || (((d :: ds).map digitOf).head? == some 0 &&
      1 < ((d :: ds).map digitOf).length)) = true := by
    rw [hlead]
    exact Bool.false_ne_true
  cases negative with
  | true =>
    rw [signText, if_pos rfl, List.singleton_append, number?, splitDigits_append hd.digits hr]
    exact if_neg haccepted
  | false =>
    have hminus : d ≠ '-' := by
      rintro rfl
      nomatch hfirst
    rw [signText, if_neg Bool.false_ne_true, List.nil_append,
      number?.eq_2 _ (by simpa using hminus), splitDigits_append hd.digits hr]
    exact if_neg haccepted

theorem toList_toString_int (n : Int) :
    (toString n).toList = signText (n < 0) ++ digits n.natAbs := by
  cases n with
  | ofNat n => rfl
  | negSucc n =>
    have htext : toString (Int.negSucc n) = "-" ++ toString (n + 1) := rfl
    have hneg : decide (Int.negSucc n < 0) = true := decide_eq_true (Int.negSucc_lt_zero n)
    rw [htext, String.toList_append, hneg]
    rfl

theorem number?_toString_int (n : Int) : number? (toString n).toList = some (.int n) := by
  have hn := number?_whole (isWhole_digits n.natAbs) (n < 0) [] endsRun_nil
  rw [List.append_nil, ← toList_toString_int, ofDigits_digits] at hn
  rw [hn]
  by_cases h : n < 0
  · simp only [h, decide_true, if_true]
    congr 2
    omega
  · simp only [h, decide_false, Bool.false_eq_true, if_false]
    congr 2
    omega

end Numbers

section Printer

/-- A text is split into tokens wherever it stands, unless it runs on into what follows. -/
def Lexes (s : String) (ts : List Token) : Prop :=
  ∀ rest, EndsAtom rest → tokens? (s.toList ++ rest) = (tokens? rest).map (ts ++ ·)

theorem lexes_atom {s : String} {v : Value} (hne : s.toList ≠ [])
    (ha : ∀ c ∈ s.toList, isAtomChar c = true)
    (hv : (word? s.toList).or (number? s.toList) = some v) : Lexes s [.atom v] :=
  fun _ hr => tokens?_atom hne ha hv hr

theorem lexes_int (n : Int) : Lexes (toString n) [.atom (.int n)] := by
  have hdigit : ∃ c ∈ (toString n).toList, isAsciiDigit c = true := by
    obtain ⟨c, hc⟩ := List.exists_mem_of_ne_nil _ (digits_ne_nil n.natAbs)
    rw [toList_toString_int]
    exact ⟨c, List.mem_append_right _ hc, isAsciiDigit_of_mem_digits hc⟩
  refine lexes_atom ?_ ?_ ?_
  · obtain ⟨c, hc, -⟩ := hdigit
    exact List.ne_nil_of_mem hc
  · intro c hc
    rw [toList_toString_int, List.mem_append] at hc
    rcases hc with hc | hc
    · rw [eq_minus_of_mem_signText hc]
      rfl
    · exact isAtomChar_of_isAsciiDigit (isAsciiDigit_of_mem_digits hc)
  · rw [word?_eq_none hdigit, number?_toString_int]
    rfl

theorem lexes_word {s : String} {v : Value} (hw : word? s.toList = some v)
    (hs : s.toList.all isAtomChar = true) : Lexes s [.atom v] := by
  refine lexes_atom ?_ (List.all_eq_true.mp hs) (by rw [hw, Option.some_or])
  intro hn
  rw [hn] at hw
  nomatch hw

theorem lexes_null : Lexes "null" [.atom .null] := lexes_word rfl rfl

theorem lexes_bool (b : Bool) : Lexes (if b then "true" else "false") [.atom (.bool b)] := by
  cases b with
  | true => exact lexes_word rfl rfl
  | false => exact lexes_word rfl rfl

theorem lexes_stringText (s : String) : Lexes (stringText s) [.atom (.str s)] :=
  fun rest _ => tokens?_stringText s rest

theorem tokens?_blanks (n : Nat) (rest : List Char) :
    tokens? (List.replicate n ' ' ++ rest) = tokens? rest := by
  induction n with
  | zero => rfl
  | succ n ih => rw [List.replicate_succ, List.cons_append, tokens?_layout rfl, ih]

theorem tokens?_lineBreak (indent : Option Int) (level : Nat) (rest : List Char) :
    tokens? ((lineBreak indent level).toList ++ rest) = tokens? rest := by
  cases indent with
  | none => rfl
  | some n =>
    rw [lineBreak, String.toList_ofList, List.cons_append, tokens?_layout rfl, tokens?_blanks]

theorem endsAtom_lineBreak (indent : Option Int) (level : Nat) {rest : List Char}
    (hr : EndsAtom rest) : EndsAtom ((lineBreak indent level).toList ++ rest) := by
  cases indent with
  | none => exact hr
  | some n =>
    rw [lineBreak, String.toList_ofList, List.cons_append]
    exact endsRun_cons rfl

def keyName : Key → String
  | .int n => toString n
  | .float x => floatText x
  | .str s => s

theorem keyText_eq_stringText (k : Key) : keyText k = stringText (keyName k) := by
  cases k <;> rfl

mutual

def tokensOf : Value → List Token
  | .list vs => .openList :: ([Token.comma].intercalate (itemTokens vs) ++ [.closeList])
  | .map es => .openMap :: ([Token.comma].intercalate (entryTokens es) ++ [.closeMap])
  | v => [.atom v]

def itemTokens : List Value → List (List Token)
  | [] => []
  | v :: vs => tokensOf v :: itemTokens vs

def entryTokens : List (Key × Value) → List (List Token)
  | [] => []
  | (k, v) :: es => (.atom (.str (keyName k)) :: .colon :: tokensOf v) :: entryTokens es

end

variable {indent : Option Int} {level : Nat}

theorem lexes_entry {k : Key} {s : String} {ts : List Token} (h : Lexes s ts) :
    Lexes (keyText k ++ ": " ++ s) (.atom (.str (keyName k)) :: .colon :: ts) := by
  intro rest hr
  have hsep : (": " : String).toList = [':', ' '] := rfl
  rw [String.toList_append, String.toList_append, List.append_assoc, List.append_assoc,
    keyText_eq_stringText, tokens?_stringText, hsep, List.cons_append, List.cons_append,
    tokens?_mark rfl, tokens?_layout rfl, List.nil_append, h rest hr, Option.map_map,
    Option.map_map]
  rfl

/-- What stands between two items of a list or a map. -/
def separator (indent : Option Int) (level : Nat) : String :=
  (if indent.isSome then "," else ", ") ++ lineBreak indent level

theorem toList_separator (indent : Option Int) (level : Nat) : ∃ s : List Char,
    (separator indent level).toList = ',' :: s ∧ ∀ rest, tokens? (s ++ rest) = tokens? rest := by
  cases indent with
  | none =>
    refine ⟨[' '], ?_, fun rest => tokens?_layout rfl rest⟩
    simp [separator, lineBreak]
  | some n =>
    refine ⟨(lineBreak (some n) level).toList, ?_, tokens?_lineBreak (some n) level⟩
    rw [separator, String.toList_append, Option.isSome_some, if_pos rfl]
    rfl

theorem tokens?_separator (rest : List Char) :
    tokens? ((separator indent level).toList ++ rest) = (tokens? rest).map (.comma :: ·) := by
  obtain ⟨s, hs, hrest⟩ := toList_separator indent level
  rw [hs, List.cons_append, tokens?_mark rfl, hrest]

theorem endsAtom_separator (rest : List Char) :
    EndsAtom ((separator indent level).toList ++ rest) := by
  obtain ⟨s, hs, -⟩ := toList_separator indent level
  rw [hs]
  exact endsRun_cons rfl

theorem lexes_intercalate (indent : Option Int) (level : Nat) {items : List String}
    {toks : List (List Token)} (h : List.Forall₂ Lexes items toks) :
    Lexes ((separator indent level).intercalate items) ([Token.comma].intercalate toks) := by
  intro rest hr
  rw [String.toList_intercalate]
  induction h with
  | nil => simp
  | @cons s ts items toks hs h ih =>
    cases h with
    | nil => simpa using hs rest hr
    | @cons s' ts' items toks hs' h =>
      rw [List.map_cons, List.map_cons, List.intercalate_cons_cons, List.intercalate_cons_cons,
        List.append_assoc, List.append_assoc, hs _ (endsAtom_separator _), tokens?_separator,
        ← List.map_cons, ih, Option.map_map, Option.map_map]
      congr 1
      funext us
      simp

theorem lexes_bracketed {left right : String} {l r : Char} {lt rt : Token}
    (hl : left.toList = [l]) (hlt : mark? l = some lt) (hr : right.toList = [r])
    (hrt : mark? r = some rt) {items : List String} {toks : List (List Token)}
    (h : List.Forall₂ Lexes items toks) :
    Lexes (bracketed indent level left right items)
      (lt :: ([Token.comma].intercalate toks ++ [rt])) := by
  have hclose : ∀ rest, tokens? (r :: rest) = (tokens? rest).map (rt :: ·) := tokens?_mark hrt
  have hends : ∀ rest, EndsAtom (r :: rest) := fun _ => endsRun_cons (isAtomChar_of_mark? hrt)
  intro rest _
  cases h with
  | nil =>
    rw [bracketed, List.isEmpty_nil, if_pos rfl, String.toList_append, hl, hr, List.append_assoc,
      List.singleton_append, List.singleton_append, tokens?_mark hlt, hclose, Option.map_map]
    rfl
  | @cons s ts items toks hs h =>
    have hitems := lexes_intercalate indent (level + 1) (.cons hs h)
    have htext : bracketed indent level left right (s :: items) =
        left ++ lineBreak indent (level + 1) ++
          (separator indent (level + 1)).intercalate (s :: items) ++ lineBreak indent level ++
          right := rfl
    simp only [htext, String.toList_append, hl, hr, List.append_assoc, List.singleton_append]
    rw [List.cons_append, tokens?_mark hlt, tokens?_lineBreak,
      hitems _ (endsAtom_lineBreak _ _ (hends rest)), tokens?_lineBreak, hclose, Option.map_map,
      Option.map_map]
    congr 1
    funext us
    simp

theorem itemTokens_eq_map (vs : List Value) : itemTokens vs = vs.map tokensOf := by
  induction vs with
  | nil => rfl
  | cons v vs ih => rw [itemTokens, ih, List.map_cons]

theorem lexes_itemTexts {vs : List Value}
    (h : ∀ v ∈ vs, Lexes (textAt indent level v) (tokensOf v)) :
    List.Forall₂ Lexes (itemTexts indent level vs) (itemTokens vs) := by
  induction vs with
  | nil => exact .nil
  | cons v vs ih =>
    obtain ⟨hv, hvs⟩ := List.forall_mem_cons.mp h
    exact .cons hv (ih hvs)

theorem lexes_entryTexts {es : List (Key × Value)}
    (h : ∀ e ∈ es, Lexes (textAt indent level e.2) (tokensOf e.2)) :
    List.Forall₂ Lexes (entryTexts indent level es) (entryTokens es) := by
  induction es with
  | nil => exact .nil
  | cons e es ih =>
    obtain ⟨he, hes⟩ := List.forall_mem_cons.mp h
    exact .cons (lexes_entry he) (ih hes)

end Printer

end BuildingQuery.Json
