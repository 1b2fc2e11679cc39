import BuildingQuery.Json.Reader
import BuildingQuery.Proofs.Json.Floats
import BuildingQuery.Proofs.Value.Data

/-! Data from its own JSON text. The text is split into the tokens of the data whatever the indent,
and the reader takes them as the data again, wherever they stand in a list or a map. -/

namespace BuildingQuery.Json

variable {P : Float → Prop}

theorem lexes_textAt {v : Value} (h : v.JsonData P) (indent : Option Int) (level : Nat) :
    Lexes (textAt indent level v) (tokensOf v) := by
  induction h generalizing level with
  | null => exact lexes_null
  | bool b => exact lexes_bool b
  | int n => exact lexes_int n
  | float h => exact lexes_floatText _
  | str s => exact lexes_stringText s
  | list h ih =>
    exact lexes_bracketed rfl rfl rfl rfl (lexes_itemTexts fun v hv => ih v hv (level + 1))
  | @map es hn h ih =>
    refine lexes_bracketed rfl rfl rfl rfl (lexes_entryTexts fun e he => ?_)
    obtain ⟨f, hf, rfl⟩ := List.mem_map.mp he
    exact ih f hf (level + 1)

inductive Place.Begins : Place → Prop where
  | value : Begins .value
  | item : Begins .item

/-- Tokens are taken as a whole value wherever one may begin. -/
def Takes (ts : List Token) (v : Value) : Prop :=
  ∀ fs rest, ∀ p : Place, p.Begins → Reading.steps ⟨fs, p⟩ (ts ++ rest) =
    (Reading.take ⟨fs, .value⟩ v).bind fun r => r.steps rest

theorem takes_atom (v : Value) : Takes [.atom v] v := by
  intro fs rest p hp
  cases hp <;> rfl

/-- The items of a list from any of them up to its end. -/
theorem steps_items {toks : List (List Token)} {vs : List Value} (h : List.Forall₂ Takes toks vs)
    {t : List Token} {v : Value} (hv : Takes t v) {p : Place} (hp : p.Begins) (fs : List Frame)
    (us : List Value) (rest : List Token) :
    Reading.steps ⟨.list us :: fs, p⟩
        ([Token.comma].intercalate (t :: toks) ++ .closeList :: rest) =
      (Reading.take ⟨fs, .value⟩ (.list (us.reverse ++ v :: vs))).bind fun r => r.steps rest := by
  induction h generalizing t v us p with
  | nil =>
    have hlast : us.reverse ++ [v] = (v :: us).reverse := (List.reverse_cons).symm
    rw [List.intercalate_singleton, hv _ _ p hp, hlast]
    rfl
  | @cons t' v' toks vs hv' h ih =>
    have hlast : us.reverse ++ v :: v' :: vs = (v :: us).reverse ++ v' :: vs := by simp
    rw [List.intercalate_cons_cons, List.append_assoc, List.append_assoc, hv _ _ p hp, hlast,
      ← ih hv' .value (v :: us)]
    rfl

theorem takes_list {toks : List (List Token)} {vs : List Value} (h : List.Forall₂ Takes toks vs) :
    Takes (.openList :: ([Token.comma].intercalate toks ++ [.closeList])) (.list vs) := by
  intro fs rest p hp
  have hopen : ∀ us, Reading.steps ⟨fs, p⟩ (.openList :: us) =
      Reading.steps ⟨.list [] :: fs, .item⟩ us := by
    cases hp <;> exact fun _ => rfl
  rw [List.cons_append, hopen, List.append_assoc, List.singleton_append]
  cases h with
  | nil => rfl
  | cons hv h => exact steps_items h hv .item fs [] rest

inductive Place.IsKey : Place → Prop where
  | key : IsKey .key
  | nextKey : IsKey .nextKey

/-- Tokens are taken as an entry of a map. -/
def TakesEntry (ts : List Token) (e : Key × Value) : Prop :=
  ∀ fs es rest, ∀ p : Place, p.IsKey → Reading.steps ⟨.map es :: fs, p⟩ (ts ++ rest) =
    Reading.steps ⟨.map (e :: es) :: fs, .after⟩ rest

theorem takesEntry {s : String} {ts : List Token} {v : Value} (h : Takes ts v) :
    TakesEntry (.atom (.str s) :: .colon :: ts) (.str s, v) := by
  intro fs es rest p hp
  have hkey : ∀ us, Reading.steps ⟨.map es :: fs, p⟩ (.atom (.str s) :: .colon :: us) =
      Reading.steps ⟨.entry es s :: fs, .value⟩ us := by
    cases hp <;> exact fun _ => rfl
  rw [List.cons_append, List.cons_append, hkey, h _ _ .value .value]
  rfl

/-- The entries of a map from any of them up to its end. -/
theorem steps_entries {toks : List (List Token)} {es : List (Key × Value)}
    (h : List.Forall₂ TakesEntry toks es) {t : List Token} {e : Key × Value} (he : TakesEntry t e)
    {p : Place} (hp : p.IsKey) (fs : List Frame) (ds : List (Key × Value)) (rest : List Token) :
    Reading.steps ⟨.map ds :: fs, p⟩
        ([Token.comma].intercalate (t :: toks) ++ .closeMap :: rest) =
      (Reading.take ⟨fs, .value⟩ (.map (OrderedMap.ofList (ds.reverse ++ e :: es)))).bind
        fun r => r.steps rest := by
  induction h generalizing t e ds p with
  | nil =>
    have hlast : ds.reverse ++ [e] = (e :: ds).reverse := (List.reverse_cons).symm
    rw [List.intercalate_singleton, he _ _ _ p hp, hlast]
    rfl
  | @cons t' e' toks es he' h ih =>
    have hlast : ds.reverse ++ e :: e' :: es = (e :: ds).reverse ++ e' :: es := by simp
    rw [List.intercalate_cons_cons, List.append_assoc, List.append_assoc, he _ _ _ p hp, hlast,
      ← ih he' .nextKey (e :: ds)]
    rfl

theorem takes_map {toks : List (List Token)} {es : List (Key × Value)}
    (h : List.Forall₂ TakesEntry toks es) :
    Takes (.openMap :: ([Token.comma].intercalate toks ++ [.closeMap]))
      (.map (OrderedMap.ofList es)) := by
  intro fs rest p hp
  have hopen : ∀ us, Reading.steps ⟨fs, p⟩ (.openMap :: us) =
      Reading.steps ⟨.map [] :: fs, .key⟩ us := by
    cases hp <;> exact fun _ => rfl
  rw [List.cons_append, hopen, List.append_assoc, List.singleton_append]
  cases h with
  | nil => rfl
  | cons he h => exact steps_entries h he .key fs [] rest

theorem takes_tokensOf {v : Value} (h : v.JsonData P) :
    Takes (tokensOf v) v := by
  induction h with
  | @list vs h ih =>
    have hitems : List.Forall₂ Takes (itemTokens vs) vs := by
      rw [itemTokens_eq_map, List.forall₂_map_left_iff, List.forall₂_same]
      exact ih
    exact takes_list hitems
  | @map es hn h ih =>
    have hentries : List.Forall₂ TakesEntry (entryTokens (es.map fun e => (Key.str e.1, e.2)))
        (es.map fun e => (Key.str e.1, e.2)) := by
      clear hn h
      induction es with
      | nil => exact .nil
      | cons e es ihe =>
        obtain ⟨he, hes⟩ := List.forall_mem_cons.mp ih
        exact .cons (takesEntry he) (ihe hes)
    have hmap := takes_map hentries
    rwa [OrderedMap.ofList_record hn] at hmap
  | _ => exact takes_atom _

/-- The text of JSON data reads back as the data, whatever the indent. -/
theorem read?_text {v : Value} (h : v.JsonData P) (indent : Option Int) :
    read? (text indent v) = some v := by
  have ht : tokens? (text indent v).toList = some (tokensOf v) := by
    have hl := lexes_textAt h indent 0 [] Number.endsRun_nil
    simpa [tokens?, text] using hl
  have hs : Reading.start.steps (tokensOf v) = some ⟨[], .nothing v⟩ := by
    have hv := takes_tokensOf h [] [] .value .value
    simpa [Reading.start, Reading.take, Reading.steps] using hv
  simp only [read?, ht, hs, Option.bind_eq_bind, Option.bind_some]

end BuildingQuery.Json
