import BuildingQuery.Decode
import BuildingQuery.Proofs.Number.Digits
import BuildingQuery.Proofs.Number.Exact

/-! The plain values that stand for integers, and the texts among them: between blanks a whole number
with a sign or without, whose digits may be joined by single underscores and followed by zeros
behind a point. -/

namespace BuildingQuery

namespace Text

variable {p : Char → Bool} {t before after : List Char}

/-- Dropping leaves what stands between the dropped characters. -/
theorem trimWith_between (hb : ∀ c ∈ before, p c = true) (ha : ∀ c ∈ after, p c = true)
    (ht : ∀ c ∈ t, p c = false) : trimWith p (before ++ t ++ after) = t := by
  have hstop : ∀ u : List Char, (∀ c ∈ u, p c = false) → Number.EndsRun p u :=
    fun u hu c hc => hu c (List.mem_of_mem_head? hc)
  by_cases hne : t = []
  · have hall : ∀ c ∈ before ++ after, p c = true :=
      fun c hc => (List.mem_append.mp hc).elim (hb c) (ha c)
    rw [hne, List.append_nil, trimWith, List.dropWhile_eq_nil_iff.mpr hall]
    rfl
  · obtain ⟨d, u, rfl⟩ := List.exists_cons_of_ne_nil hne
    have hfront : (before ++ (d :: u ++ after)).dropWhile p = d :: u ++ after :=
      Number.dropWhile_append_of_endsRun hb (Number.endsRun_cons (ht d List.mem_cons_self))
    have hback : (after.reverse ++ (d :: u).reverse).dropWhile p = (d :: u).reverse :=
      Number.dropWhile_append_of_endsRun (fun c hc => ha c (List.mem_reverse.mp hc))
        (hstop _ fun c hc => ht c (List.mem_reverse.mp hc))
    rw [trimWith, List.append_assoc, hfront, List.reverse_append, hback, List.reverse_reverse]

theorem exists_of_trimWith (p : Char → Bool) (s : List Char) : ∃ before after,
    s = before ++ trimWith p s ++ after ∧ (∀ c ∈ before, p c = true) ∧ ∀ c ∈ after, p c = true := by
  have hmem : ∀ u : List Char, ∀ c ∈ u.takeWhile p, p c = true :=
    fun u => List.all_eq_true.mp List.all_takeWhile
  refine ⟨s.takeWhile p, ((s.dropWhile p).reverse.takeWhile p).reverse, ?_, hmem s,
    fun c hc => hmem _ c (List.mem_reverse.mp hc)⟩
  rw [trimWith, List.append_assoc, ← List.reverse_append, List.takeWhile_append_dropWhile,
    List.reverse_reverse, List.takeWhile_append_dropWhile]

end Text

namespace Number

open Text

/-- Digits with single underscores between some of them, and the digits alone. -/
inductive Grouped : (text digits : List Char) → Prop where
  | last {d : Char} (hd : isAsciiDigit d = true) : Grouped [d] [d]
  | digit {d : Char} {s ds : List Char} (hd : isAsciiDigit d = true) (h : Grouped s ds) :
      Grouped (d :: s) (d :: ds)
  | joined {d : Char} {s ds : List Char} (hd : isAsciiDigit d = true) (h : Grouped s ds) :
      Grouped (d :: '_' :: s) (d :: ds)

/-- A whole number without a sign, and its digits before the point. -/
inductive Whole : (text digits : List Char) → Prop where
  | plain {s ds : List Char} (h : Grouped s ds) : Whole s ds
  | pointed {s ds : List Char} (h : Grouped s ds) (k : Nat) : Whole (s ++ '.' :: zeros (k + 1)) ds

/-- An integer with a sign or without, whether it is negative, and its digits. -/
inductive Signed : (text : List Char) → (negative : Bool) → (digits : List Char) → Prop where
  | plain {s ds : List Char} (h : Whole s ds) : Signed s false ds
  | plus {s ds : List Char} (h : Whole s ds) : Signed ('+' :: s) false ds
  | minus {s ds : List Char} (h : Whole s ds) : Signed ('-' :: s) true ds

variable {s ds : List Char}

theorem ne_of_isAsciiDigit {c d : Char} (hc : isAsciiDigit c = true)
    (hd : isAsciiDigit d = false) : c ≠ d := by
  rintro rfl
  rw [hc] at hd
  nomatch hd

namespace Grouped

theorem exists_cons (h : Grouped s ds) : ∃ d t, s = d :: t ∧ isAsciiDigit d = true := by
  cases h with
  | last hd => exact ⟨_, _, rfl, hd⟩
  | digit hd _ => exact ⟨_, _, rfl, hd⟩
  | joined hd _ => exact ⟨_, _, rfl, hd⟩

theorem digits_ne_nil (h : Grouped s ds) : ds ≠ [] := by
  cases h <;> exact List.cons_ne_nil _ _

theorem forall_digits (h : Grouped s ds) : ∀ c ∈ ds, isAsciiDigit c = true := by
  induction h with
  | last hd => simpa using hd
  | digit hd _ ih => exact List.forall_mem_cons.mpr ⟨hd, ih⟩
  | joined hd _ ih => exact List.forall_mem_cons.mpr ⟨hd, ih⟩

theorem forall_text (h : Grouped s ds) : ∀ c ∈ s, isAsciiDigit c = true ∨ c = '_' := by
  induction h with
  | last hd => exact List.forall_mem_singleton.mpr (.inl hd)
  | digit hd _ ih => exact List.forall_mem_cons.mpr ⟨.inl hd, ih⟩
  | joined hd _ ih =>
    exact List.forall_mem_cons.mpr ⟨.inl hd, List.forall_mem_cons.mpr ⟨.inr rfl, ih⟩⟩

theorem joinGroups? (h : Grouped s ds) : joinGroups? s = some ds := by
  induction h with
  | last hd =>
    have hne := ne_of_isAsciiDigit hd (d := '_') rfl
    rw [joinGroups?.eq_4 _ _ hne (by simp), Number.joinGroups?]
    rfl
  | digit hd h ih =>
    obtain ⟨e, t, rfl, he⟩ := h.exists_cons
    have hnext : ∀ (c : Char) (u : List Char), e :: t = '_' :: c :: u → False :=
      fun c u heq => ne_of_isAsciiDigit he rfl (List.cons.inj heq).1
    rw [joinGroups?.eq_4 _ _ (ne_of_isAsciiDigit hd rfl) hnext, ih]
    rfl
  | joined hd h ih =>
    obtain ⟨e, t, rfl, he⟩ := h.exists_cons
    rw [joinGroups?.eq_3 _ _ _ (ne_of_isAsciiDigit hd rfl), hd, he, Bool.and_self, if_pos rfl, ih]
    rfl

theorem of_joinGroups? (h : Number.joinGroups? s = some ds) (hs : s ≠ [])
    (hd : ∀ c ∈ ds, isAsciiDigit c = true) : Grouped s ds := by
  induction s using joinGroups?.induct generalizing ds with
  | case1 => exact absurd rfl hs
  | case2 s => nomatch h
  | case3 c d s hc hcd ih =>
    rw [joinGroups?.eq_3 _ _ _ hc, if_pos hcd] at h
    obtain ⟨es, hes, rfl⟩ := Option.map_eq_some_iff.mp h
    obtain ⟨hfirst, hrest⟩ := List.forall_mem_cons.mp hd
    exact .joined hfirst (ih hes (List.cons_ne_nil _ _) hrest)
  | case4 c d s hc hcd =>
    rw [joinGroups?.eq_3 _ _ _ hc, if_neg hcd] at h
    nomatch h
  | case5 c s hc hnext ih =>
    rw [joinGroups?.eq_4 _ _ hc hnext] at h
    obtain ⟨es, hes, rfl⟩ := Option.map_eq_some_iff.mp h
    obtain ⟨hfirst, hrest⟩ := List.forall_mem_cons.mp hd
    by_cases hne : s = []
    · subst hne
      obtain rfl := Option.some.inj hes
      exact .last hfirst
    · exact .digit hfirst (ih hes hne hrest)

end Grouped

theorem isBlank_of_isAsciiDigit {c : Char} (h : isAsciiDigit c = true) : isBlank c = false := by
  simp only [isAsciiDigit, Bool.and_eq_true, decide_eq_true_eq, Char.le_def] at h
  have hlow : 48 ≤ c.toNat := h.1
  have hhigh : c.toNat ≤ 57 := h.2
  simp only [isBlank, isSpace]
  simp
  omega

theorem Whole.exists_cons (h : Whole s ds) : ∃ d t, s = d :: t ∧ isAsciiDigit d = true := by
  rcases h with hg | ⟨hg, k⟩
  · exact hg.exists_cons
  · obtain ⟨d, t, rfl, hd⟩ := hg.exists_cons
    exact ⟨d, _, rfl, hd⟩

theorem Whole.not_blank (h : Whole s ds) : ∀ c ∈ s, isBlank c = false := by
  have hgrouped : ∀ {t : List Char}, Grouped t ds → ∀ c ∈ t, isBlank c = false := by
    intro t hg c hc
    rcases hg.forall_text c hc with hd | rfl
    · exact isBlank_of_isAsciiDigit hd
    · rfl
  rcases h with hg | ⟨hg, k⟩
  · exact hgrouped hg
  · refine List.forall_mem_append.mpr ⟨hgrouped hg, List.forall_mem_cons.mpr ⟨rfl, fun c hc => ?_⟩⟩
    exact isBlank_of_isAsciiDigit (isAsciiDigit_of_mem_zeros hc)

theorem Signed.not_blank {negative : Bool} (h : Signed s negative ds) :
    ∀ c ∈ s, isBlank c = false := by
  cases h with
  | plain h => exact h.not_blank
  | plus h => exact List.forall_mem_cons.mpr ⟨rfl, h.not_blank⟩
  | minus h => exact List.forall_mem_cons.mpr ⟨rfl, h.not_blank⟩

end Number

namespace Value

open Number Text

/-- The integers that plain values stand for. Floats are whole and fit into a machine word. Texts are
integers between blanks and do not have too many digits behind their leading zeros. -/
inductive Denotes : Value → Int → Prop where
  | bool (b : Bool) : Denotes (.bool b) (if b then 1 else 0)
  | int (n : Int) : Denotes (.int n) n
  | float {x : Float} {n : Int} (h : int? x = some n) (hlow : -2 ^ 63 < n) (hhigh : n < 2 ^ 63) :
      Denotes (.float x) n
  | text {s : String} {before t after ds : List Char} {negative : Bool}
      (hs : s.toList = before ++ t ++ after) (hb : ∀ c ∈ before, isBlank c = true)
      (ha : ∀ c ∈ after, isBlank c = true) (ht : Signed t negative ds)
      (hlen : (ds.dropWhile (· == '0')).length ≤ 4300) :
      Denotes (.str s) (if negative then -ofDigits (ds.map digitOf) else ofDigits (ds.map digitOf))

end Value

namespace Decoder

open Number Text

variable {s ds : List Char} {n : Int}

theorem isZeroFraction_iff {rest : List Char} (hr : EndsRun (· != '.') rest) :
    isZeroFraction rest = true ↔ rest = [] ∨ ∃ k, rest = '.' :: zeros (k + 1) := by
  cases rest with
  | nil => simp [isZeroFraction]
  | cons c zs =>
    have hc : c = '.' := by simpa using hr c rfl
    cases zs with
    | nil => simp [isZeroFraction, zeros, List.replicate_succ]
    | cons z zs =>
      have hall : ∀ k, z :: zs = zeros (k + 1) ↔ k = zs.length ∧ ∀ c ∈ z :: zs, c = '0' := by
        intro k
        rw [zeros, List.eq_replicate_iff, List.length_cons, Nat.succ_inj, eq_comm]
      simp [isZeroFraction, hc, hall]

theorem wholeDigits?_append {whole rest : List Char} (hw : ∀ c ∈ whole, (c != '.') = true)
    (hr : EndsRun (· != '.') rest) : wholeDigits? (whole ++ rest) = some ds ↔
      Grouped whole ds ∧ (rest = [] ∨ ∃ k, rest = '.' :: zeros (k + 1)) := by
  simp only [wholeDigits?, takeWhile_append_of_endsRun hw hr, List.drop_left,
    Option.filter_eq_some_iff, Bool.and_eq_true, List.all_eq_true, Bool.not_eq_true',
    List.isEmpty_eq_false_iff, isZeroFraction_iff hr]
  constructor
  · rintro ⟨hjoin, ⟨⟨-, hzeros⟩, hne⟩, hdigits⟩
    refine ⟨.of_joinGroups? hjoin ?_ hdigits, hzeros⟩
    rintro rfl
    exact hne (Option.some.inj hjoin).symm
  · rintro ⟨hg, hzeros⟩
    have hplain : ∀ c ∈ whole, (isAsciiDigit c || c == '_') = true := by
      simpa using hg.forall_text
    exact ⟨hg.joinGroups?, ⟨⟨hplain, hzeros⟩, hg.digits_ne_nil⟩, hg.forall_digits⟩

theorem wholeDigits?_eq_some_iff : wholeDigits? s = some ds ↔ Whole s ds := by
  constructor
  · intro h
    have hw : ∀ c ∈ s.takeWhile (· != '.'), (c != '.') = true :=
      List.all_eq_true.mp List.all_takeWhile
    rw [← List.takeWhile_append_dropWhile (p := (· != '.')) (l := s)] at h ⊢
    obtain ⟨hg, hrest | ⟨k, hrest⟩⟩ := (wholeDigits?_append hw (endsRun_dropWhile _ s)).mp h
    · rw [hrest, List.append_nil]
      exact .plain hg
    · rw [hrest]
      exact .pointed hg k
  · have hpoint : ∀ {t : List Char}, Grouped t ds → ∀ c ∈ t, (c != '.') = true := by
      intro t hg c hc
      rcases hg.forall_text c hc with hd | rfl
      · simpa using ne_of_isAsciiDigit hd (d := '.') rfl
      · rfl
    rintro (hg | ⟨hg, k⟩)
    · rw [← List.append_nil s]
      exact (wholeDigits?_append (hpoint hg) endsRun_nil).mpr ⟨hg, .inl rfl⟩
    · exact (wholeDigits?_append (hpoint hg) (endsRun_cons rfl)).mpr ⟨hg, .inr ⟨k, rfl⟩⟩

theorem integerText?_eq_some_iff {text : String} {negative : Bool} :
    integerText? text = some (negative, ds) ↔ Signed (trimWith isBlank text.toList) negative ds := by
  rw [integerText?]
  generalize trimWith isBlank text.toList = t
  constructor
  · intro h
    split at h
    all_goals
      obtain ⟨es, hes, heq⟩ := Option.map_eq_some_iff.mp h
      obtain ⟨rfl, rfl⟩ := Prod.mk.inj heq
      have hw := wholeDigits?_eq_some_iff.mp hes
    case h_1 => exact .minus hw
    case h_2 => exact .plus hw
    case h_3 => exact .plain hw
  · rintro (h | h | h)
    all_goals have hds := wholeDigits?_eq_some_iff.mpr h
    case plain =>
      obtain ⟨d, u, rfl, hd⟩ := h.exists_cons
      split
      case h_1 heq => exact absurd (List.cons.inj heq).1 (ne_of_isAsciiDigit hd rfl)
      case h_2 heq => exact absurd (List.cons.inj heq).1 (ne_of_isAsciiDigit hd rfl)
      case h_3 => rw [hds, Option.map_some]
    case plus => exact congrArg (Option.map _) hds
    case minus => exact congrArg (Option.map _) hds

theorem floatFitsWord_iff : floatFitsWord n = true ↔ -2 ^ 63 < n ∧ n < 2 ^ 63 := by
  have hmin : Int64.minValue.toInt = -2 ^ 63 := rfl
  have hmax : Int64.maxValue.toInt + 1 = 2 ^ 63 := rfl
  rw [floatFitsWord, Bool.and_eq_true, decide_eq_true_eq, decide_eq_true_eq, hmin, ← hmax,
    Int.lt_add_one_iff]

theorem integer_float_eq_ok_iff {x : Float} :
    integer (.float x) = .ok n ↔ int? x = some n ∧ -2 ^ 63 < n ∧ n < 2 ^ 63 := by
  rw [integer, ← floatFitsWord_iff]
  cases hx : int? x with
  | none => cases x.isFinite <;> simp [Checked.fail]
  | some m =>
    have hfinite : x.isFinite = true := by
      rw [← Bool.not_eq_false, ← binary?_eq_none_iff]
      intro hnone
      rw [int?, hnone] at hx
      nomatch hx
    have hif : (if floatFitsWord m then Checked.ok m else .fail .integerTooLong) = .ok n ↔
        floatFitsWord m = true ∧ m = n := by
      cases floatFitsWord m <;> simp [Checked.fail]
    simp only [hfinite, Bool.not_true, Bool.false_eq_true, if_false, hif, Option.some.injEq]
    exact ⟨fun ⟨hfits, hm⟩ => ⟨hm, hm ▸ hfits⟩, fun ⟨hm, hfits⟩ => ⟨hm ▸ hfits, hm⟩⟩

theorem integer_str_eq_ok_iff {s : String} : integer (.str s) = .ok n ↔
    ∃ negative ds, Signed (trimWith isBlank s.toList) negative ds ∧
      (ds.dropWhile (· == '0')).length ≤ mostDigits ∧
      (if negative then -ofDigits (ds.map digitOf) else ofDigits (ds.map digitOf) : Int) = n := by
  simp only [← integerText?_eq_some_iff]
  rw [integer]
  constructor
  · intro h
    split at h
    case h_1 negative ds hds =>
      split at h
      case isTrue hlen => exact ⟨negative, ds, hds, hlen, Checked.ok.inj h⟩
      case isFalse => nomatch h
    case h_2 => nomatch h
  · rintro ⟨negative, ds, hds, hlen, rfl⟩
    rw [hds]
    exact if_pos hlen

/-- What is read as an integer is what stands for one. -/
theorem integer_eq_ok_iff {v : Value} : integer v = .ok n ↔ v.Denotes n := by
  cases v with
  | null | list _ | map _ => exact iff_of_false (by simp [integer, Checked.fail]) (by rintro ⟨⟩)
  | bool b =>
    rw [integer, Checked.ok.injEq]
    constructor
    · rintro rfl
      exact .bool b
    · rintro ⟨⟩
      rfl
  | int m =>
    rw [integer, Checked.ok.injEq]
    constructor
    · rintro rfl
      exact .int m
    · rintro ⟨⟩
      rfl
  | float x =>
    rw [integer_float_eq_ok_iff]
    constructor
    · rintro ⟨hx, hlow, hhigh⟩
      exact .float hx hlow hhigh
    · rintro (_ | _ | ⟨hx, hlow, hhigh⟩ | _)
      exact ⟨hx, hlow, hhigh⟩
  | str s =>
    rw [integer_str_eq_ok_iff]
    constructor
    · rintro ⟨negative, ds, ht, hlen, rfl⟩
      obtain ⟨before, after, hs, hb, ha⟩ := exists_of_trimWith isBlank s.toList
      exact .text hs hb ha ht hlen
    · rintro (_ | _ | _ | @⟨_, before, t, after, ds, negative, hs, hb, ha, ht, hlen⟩)
      have htrim : trimWith isBlank s.toList = t := by
        rw [hs]
        exact trimWith_between hb ha ht.not_blank
      exact ⟨negative, ds, htrim.symm ▸ ht, hlen, rfl⟩

end Decoder

theorem Value.Denotes.unique {v : Value} {m n : Int} (hm : v.Denotes m) (hn : v.Denotes n) :
    m = n := by
  rw [← Decoder.integer_eq_ok_iff] at hm hn
  exact Checked.ok.inj (hm.symm.trans hn)

end BuildingQuery
