import BuildingQuery.Proofs.Json.Tokens
import BuildingQuery.Proofs.Number.Exact
import BuildingQuery.Proofs.Number.Numeral

/-! The floats of JSON text: the text of every float is a single token, and stands for the float it
was written for. -/

namespace BuildingQuery.Json

open Number Text

/-- The text of an unsigned float, with the digits and the exponent that it is read with. -/
inductive Numeral : List Char → List Char → ℤ → Prop where
  | point {w f t : List Char} {e : ℤ} (hw : IsWhole w) (hf : f ≠ [])
      (hfd : ∀ c ∈ f, isAsciiDigit c = true) (ht : EndsDigits t)
      (hta : ∀ c ∈ t, isAtomChar c = true) (he : exponent? t = some e) :
      Numeral (w ++ '.' :: (f ++ t)) (w ++ f) (e - f.length)
  | exponent {w t : List Char} {e : ℤ} (hw : IsWhole w) (hta : ∀ c ∈ t, isAtomChar c = true)
      (he : exponent? ('e' :: t) = some e) : Numeral (w ++ 'e' :: t) w e

variable {s ds : List Char} {e : ℤ}

theorem Numeral.exists_digit (h : Numeral s ds e) : ∃ c ∈ s, isAsciiDigit c = true := by
  cases h with
  | point hw =>
    obtain ⟨c, hc⟩ := List.exists_mem_of_ne_nil _ hw.ne_nil
    exact ⟨c, List.mem_append_left _ hc, hw.digits c hc⟩
  | exponent hw =>
    obtain ⟨c, hc⟩ := List.exists_mem_of_ne_nil _ hw.ne_nil
    exact ⟨c, List.mem_append_left _ hc, hw.digits c hc⟩

theorem Numeral.isAtomChar (h : Numeral s ds e) : ∀ c ∈ s, isAtomChar c = true := by
  intro c hc
  cases h with
  | point hw hf hfd ht hta =>
    rcases List.mem_append.mp hc with hc | hc
    · exact isAtomChar_of_isAsciiDigit (hw.digits c hc)
    · rcases List.mem_cons.mp hc with rfl | hc
      · rfl
      · rcases List.mem_append.mp hc with hc | hc
        · exact isAtomChar_of_isAsciiDigit (hfd c hc)
        · exact hta c hc
  | exponent hw hta =>
    rcases List.mem_append.mp hc with hc | hc
    · exact isAtomChar_of_isAsciiDigit (hw.digits c hc)
    · rcases List.mem_cons.mp hc with rfl | hc
      · rfl
      · exact hta c hc

theorem Numeral.digits (h : Numeral s ds e) : ∀ c ∈ ds, isAsciiDigit c = true := by
  cases h with
  | point hw hf hfd => exact List.forall_mem_append.mpr ⟨hw.digits, hfd⟩
  | exponent hw => exact hw.digits

theorem Numeral.number?_eq (h : Numeral s ds e) (negative : Bool) :
    number? (signText negative ++ s) =
      some (.float (ofDecimal negative (ds.map digitOf) e)) := by
  cases h with
  | @point w f t e hw hf hfd ht hta he =>
    have hne : (splitDigits (f ++ t)).1.isEmpty = false := by
      rw [splitDigits_append hfd ht]
      simpa using hf
    rw [number?_whole hw negative _ (endsRun_cons rfl)]
    simp only [hne, Bool.false_eq_true, if_false, decimal?_point hw.ne_nil hw.digits hfd ht, he]
    rfl
  | exponent hw hta he =>
    rw [number?_whole hw negative _ (endsRun_cons rfl)]
    simp only [decimal?_exponent hw.ne_nil hw.digits, he]
    rfl

theorem Numeral.lexes (h : Numeral s ds e) (negative : Bool) :
    Lexes (String.ofList (signText negative ++ s))
      [.atom (.float (ofDecimal negative (ds.map digitOf) e))] := by
  obtain ⟨c, hc, hd⟩ := h.exists_digit
  have hmem : c ∈ signText negative ++ s := List.mem_append_right _ hc
  refine lexes_atom ?_ ?_ ?_
  · rw [String.toList_ofList]
    exact List.ne_nil_of_mem hmem
  · intro c hc
    rw [String.toList_ofList] at hc
    rcases List.mem_append.mp hc with hc | hc
    · rw [eq_minus_of_mem_signText hc]
      rfl
    · exact h.isAtomChar c hc
  · rw [String.toList_ofList, word?_eq_none ⟨c, hmem, hd⟩, h.number?_eq]
    rfl

section Layout

/-- The digits of a float: the first is no zero. -/
structure IsSignificant (ds : List Char) : Prop where
  ne_nil : ds ≠ []
  digits : ∀ c ∈ ds, isAsciiDigit c = true
  head : ds.head? ≠ some '0'

/-- What a text stands for: digits, the last of which counts a power of ten. -/
def IsText (s ds : List Char) (e : ℤ) : Prop :=
  ∃ es k, Numeral s es k ∧
    (ofDigits (es.map digitOf) : ℚ) * 10 ^ k = ofDigits (ds.map digitOf) * 10 ^ e

theorem isText_of_eq (h : Numeral s ds e) {k : ℤ} (hk : e = k) : IsText s ds k :=
  ⟨ds, e, h, by rw [hk]⟩

variable {ds : List Char}

theorem IsSignificant.isWhole {ws r : List Char} (h : IsSignificant (ws ++ r))
    (hw : ws ≠ []) : IsWhole ws where
  ne_nil := hw
  digits c hc := h.digits c (List.mem_append_left _ hc)
  head hz := by
    obtain ⟨w, ws, rfl⟩ := List.exists_cons_of_ne_nil hw
    exact absurd hz h.head

theorem IsSignificant.isWhole_zeros (h : IsSignificant ds) (k : ℕ) : IsWhole (ds ++ zeros k) where
  ne_nil := List.append_ne_nil_of_left_ne_nil h.ne_nil _
  digits := List.forall_mem_append.mpr ⟨h.digits, fun _ => isAsciiDigit_of_mem_zeros⟩
  head hz := by
    obtain ⟨d, ds, rfl⟩ := List.exists_cons_of_ne_nil h.ne_nil
    exact absurd hz h.head

theorem exponent?_nil : exponent? [] = some 0 := rfl

/-- All digits after the point, and some zeros before them. -/
theorem isText_fraction (h : IsSignificant ds) (k : ℕ) :
    IsText (['0', '.'] ++ zeros k ++ ds) ds (-(k : ℤ) - ds.length) := by
  have hw : IsWhole ['0'] := ⟨by simp, by simp [isAsciiDigit], by simp⟩
  have hfd : ∀ c ∈ zeros k ++ ds, isAsciiDigit c = true :=
    List.forall_mem_append.mpr ⟨fun _ => isAsciiDigit_of_mem_zeros, h.digits⟩
  have hn := Numeral.point hw (by simp [h.ne_nil]) hfd endsRun_nil (by simp) exponent?_nil
  have hvalue : ofDigits ((['0'] ++ (zeros k ++ ds)).map digitOf) = ofDigits (ds.map digitOf) := by
    have hz : digitOf '0' = 0 := rfl
    rw [List.singleton_append, List.map_cons, List.map_append, map_digitOf_zeros, hz,
      ofDigits_cons, Nat.zero_mul, Nat.zero_add, ofDigits_zeros_append]
  have hexp : (0 : ℤ) - (zeros k ++ ds).length = -(k : ℤ) - ds.length := by
    simp only [List.length_append, zeros, List.length_replicate]
    omega
  have htext : ['0', '.'] ++ zeros k ++ ds = ['0'] ++ '.' :: (zeros k ++ ds ++ []) := by simp
  rw [htext]
  exact ⟨_, _, hexp ▸ hn, by rw [hvalue]⟩

/-- All digits before the point, and some zeros after them. -/
theorem isText_whole (h : IsSignificant ds) (k : ℕ) :
    IsText (ds ++ zeros k ++ ['.', '0']) ds k := by
  have hn := Numeral.point (h.isWhole_zeros k) (List.cons_ne_nil '0' []) (by simp [isAsciiDigit])
    endsRun_nil (by simp) exponent?_nil
  have hvalue : ofDigits ((ds ++ zeros k ++ ['0']).map digitOf) =
      ofDigits (ds.map digitOf) * 10 ^ k * 10 := by
    rw [List.map_append, List.map_append, map_digitOf_zeros]
    exact (ofDigits_append_singleton _ 0).trans (by rw [ofDigits_append_zeros, Nat.add_zero])
  have hlast : (10 : ℚ) ^ ((0 : ℤ) - (['0'] : List Char).length) = 1 / 10 := by norm_num
  refine ⟨_, _, hn, ?_⟩
  rw [hvalue, zpow_natCast, hlast]
  push_cast
  ring

theorem isText_mixed (h : IsSignificant ds) {k : ℕ} (hk : k ≠ 0) (hlt : k < ds.length) :
    IsText (ds.take k ++ '.' :: ds.drop k) ds (k - ds.length) := by
  have hsplit : ds.take k ++ ds.drop k = ds := List.take_append_drop _ _
  have hw : IsWhole (ds.take k) := by
    refine IsSignificant.isWhole (hsplit.symm ▸ h) ?_
    rw [ne_eq, List.take_eq_nil_iff, not_or]
    exact ⟨hk, h.ne_nil⟩
  have hf : ds.drop k ≠ [] := by
    rw [ne_eq, List.drop_eq_nil_iff]
    omega
  have hn := Numeral.point hw hf (fun c hc => h.digits c (List.mem_of_mem_drop hc)) endsRun_nil
    (by simp) exponent?_nil
  rw [List.append_nil, hsplit] at hn
  refine isText_of_eq hn ?_
  rw [List.length_drop]
  omega

theorem isText_positional (h : IsSignificant ds) (place : ℤ) :
    IsText (positional ds place) ds (place - ds.length) := by
  rw [positional]
  split
  case isTrue hp =>
    have hplace : -((-place).toNat : ℤ) = place := by omega
    have ht := isText_fraction h (-place).toNat
    rwa [hplace] at ht
  case isFalse hp =>
    simp only
    split
    case isTrue hlen =>
      have hplace : ((place.toNat - ds.length : ℕ) : ℤ) = place - ds.length := by omega
      exact hplace ▸ isText_whole h (place.toNat - ds.length)
    case isFalse hlen =>
      have hplace : (place.toNat : ℤ) = place := by omega
      have ht := isText_mixed h (k := place.toNat) (by omega) (by omega)
      rwa [hplace] at ht

theorem isText_scientific (h : IsSignificant ds) (power : ℤ) :
    IsText (scientific ds power) ds (power + 1 - ds.length) := by
  have hexp := exponent?_digits power (2 - (digits power.natAbs).length)
  have hatoms : ∀ c ∈ (if power < 0 then '-' else '+') ::
      (zeros (2 - (digits power.natAbs).length) ++ digits power.natAbs), isAtomChar c = true := by
    refine List.forall_mem_cons.mpr ⟨by split <;> rfl, fun c hc => isAtomChar_of_isAsciiDigit ?_⟩
    rcases List.mem_append.mp hc with hc | hc
    · exact isAsciiDigit_of_mem_zeros hc
    · exact isAsciiDigit_of_mem_digits hc
  obtain ⟨d, ds, rfl⟩ := List.exists_cons_of_ne_nil h.ne_nil
  have hw : IsWhole [d] := IsSignificant.isWhole (r := ds) h (by simp)
  cases ds with
  | nil =>
    have hn := Numeral.exponent hw hatoms hexp
    refine isText_of_eq (by simpa [scientific] using hn) (by simp)
  | cons d' ds =>
    have hn := Numeral.point hw (List.cons_ne_nil d' ds)
      (fun c hc => h.digits c (List.mem_cons_of_mem _ hc)) (endsRun_cons rfl)
      (List.forall_mem_cons.mpr ⟨rfl, hatoms⟩) hexp
    refine isText_of_eq (by simpa [scientific] using hn) ?_
    simp only [List.length_cons]
    push_cast
    ring

theorem isSignificant_trimZeros {n : ℕ} (hn : n ≠ 0) :
    IsSignificant (trimZeros (Number.digits n)) := by
  obtain ⟨k, hk⟩ := exists_trimZeros (Number.digits n)
  have hhead := head?_digits_ne hn
  generalize trimZeros (Number.digits n) = ts at hk ⊢
  rw [hk] at hhead
  refine ⟨?_, fun c hc => isAsciiDigit_of_mem_digits (hk ▸ List.mem_append_left _ hc), ?_⟩
  · rintro rfl
    cases k with
    | zero => exact digits_ne_nil n hk
    | succ k => exact hhead rfl
  · cases ts with
    | nil => simp
    | cons t ts => exact hhead

/-- The digits of a decimal without their last zeros, with the power of ten of the last one left. -/
theorem trimZeros_value (d : Decimal) :
    (ofDigits ((trimZeros (Number.digits d.digits)).map digitOf) : ℚ) *
        10 ^ (d.exponent + (Number.digits d.digits).length - 1 + 1 -
          (trimZeros (Number.digits d.digits)).length) =
      d.digits * 10 ^ d.exponent := by
  obtain ⟨k, hk⟩ := exists_trimZeros (Number.digits d.digits)
  have hvalue := ofDigits_digits d.digits
  have hlen : (Number.digits d.digits).length =
      (trimZeros (Number.digits d.digits)).length + k := by
    have hl := congrArg List.length hk
    rwa [List.length_append, zeros, List.length_replicate] at hl
  generalize trimZeros (Number.digits d.digits) = ts at hk hlen ⊢
  rw [hk, List.map_append, map_digitOf_zeros, ofDigits_append_zeros] at hvalue
  have hexp : d.exponent + (Number.digits d.digits).length - 1 + 1 - ts.length =
      d.exponent + (k : ℤ) := by
    rw [hlen]
    push_cast
    ring
  rw [hexp, zpow_add₀ (by norm_num), zpow_natCast, ← hvalue]
  push_cast
  ring

/-- The text of a float that is not zero stands for its shortest decimal. -/
theorem exists_numeral_magnitudeText {bits num : ℕ} (den : ℕ) (hn : num ≠ 0)
    (hd : (shortest bits num den).digits ≠ 0) :
    ∃ es k, Numeral (magnitudeText bits num den) es k ∧
      (ofDigits (es.map digitOf) : ℚ) * 10 ^ k =
        (shortest bits num den).num / (shortest bits num den).den := by
  have hsig := isSignificant_trimZeros hd
  rw [magnitudeText, if_neg hn, Decimal.num_div_den, ← trimZeros_value]
  simp only
  split
  · exact isText_positional hsig _
  · exact isText_scientific hsig _

theorem numeral_zero : Numeral ['0', '.', '0'] ['0', '0'] (0 - (1 : ℕ)) :=
  .point (w := ['0']) (f := ['0']) (t := []) ⟨by simp, by simp [isAsciiDigit], by simp⟩ (by simp)
    (by simp [isAsciiDigit]) endsRun_nil (by simp) exponent?_nil

theorem lexes_text {x : Float} (hx : x.isFinite = true) :
    Lexes (Number.text x) [.atom (.float x)] := by
  obtain ⟨b, hb⟩ : ∃ b, binary? x = some b :=
    Option.ne_none_iff_exists'.mp fun hn => by simp [(binary?_eq_none_iff x).mp hn] at hx
  have htext : Number.text x =
      String.ofList (signText b.negative ++ magnitudeText (magnitudeBits x) b.num b.den) := by
    rw [Number.text, hb]
    rfl
  have hfloat := ofBits_magnitudeBits x
  rw [← negative_of_binary? hb] at hfloat
  rw [htext]
  rcases isMagnitude_of_binary? hb with ⟨hm, hbits⟩ | hmag
  · have hn : b.num = 0 := b.num_eq_zero_iff.mpr hm
    have hl := numeral_zero.lexes b.negative
    have hzero : ofDecimal b.negative (['0', '0'].map digitOf) (0 - (1 : ℕ)) =
        Float.ofBits (UInt64.ofNat (0 + if b.negative then signBit else 0)) := by
      cases b.negative <;> rfl
    rw [hbits] at hfloat
    rw [hzero, hfloat] at hl
    rwa [magnitudeText, if_pos hn]
  · have hn : b.num ≠ 0 := mt b.num_eq_zero_iff.mp hmag.pos.ne'
    obtain ⟨hd, hread⟩ := readsAs_shortest hmag hn b.den_ne_zero b.num_div_den
    obtain ⟨es, k, hnum, hvalue⟩ := exists_numeral_magnitudeText b.den hn hd
    have hes : ∀ d ∈ es.map digitOf, d < 10 := by
      intro d hd
      obtain ⟨c, hc, rfl⟩ := List.mem_map.mp hd
      exact digitOf_lt (hnum.digits c hc)
    have hl := hnum.lexes b.negative
    rw [ofDecimal_eq_ofRatio hes (Decimal.num_ne_zero hd) (Decimal.den_ne_zero _) hvalue,
      ofRatio_of_nearestBits (Decimal.num_ne_zero hd) hread, hfloat] at hl
    exact hl

/-- The text of every float is read as the float. -/
theorem lexes_floatText (x : Float) : Lexes (floatText x) [.atom (.float x)] := by
  cases hx : x.isFinite with
  | true =>
    rw [floatText, isNaN_of_isFinite hx, hx]
    exact lexes_text hx
  | false =>
    have hnan : floatText notANumber = "NaN" := by decide +kernel
    have hpos : floatText infinity = "Infinity" := by decide +kernel
    have hneg : floatText (-infinity) = "-Infinity" := by decide +kernel
    rcases eq_of_not_isFinite hx with rfl | rfl | rfl
    · rw [hnan]
      exact lexes_word rfl rfl
    · rw [hpos]
      exact lexes_word rfl rfl
    · rw [hneg]
      exact lexes_word rfl rfl

end Layout

end BuildingQuery.Json
