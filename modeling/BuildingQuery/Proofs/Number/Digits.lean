import BuildingQuery.Number.Decimal
import BuildingQuery.Number.Reader
import Mathlib.Algebra.Ring.Nat

/-! Decimal digits of natural numbers: they are split off a text up to the first other character,
and stand for the number they were written for. -/

namespace BuildingQuery.Number

open Text

def digitOf (c : Char) : Nat := c.toNat - 48

/-- A text that does not go on with a character of a kind. -/
def EndsRun (p : Char → Bool) (s : List Char) : Prop := ∀ c ∈ s.head?, p c = false

abbrev EndsDigits : List Char → Prop := EndsRun isAsciiDigit

theorem endsRun_nil {p : Char → Bool} : EndsRun p [] := by simp [EndsRun]

theorem endsRun_cons {p : Char → Bool} {c : Char} {s : List Char} (h : p c = false) :
    EndsRun p (c :: s) := by simpa [EndsRun] using h

theorem endsRun_dropWhile (p : Char → Bool) (s : List Char) : EndsRun p (s.dropWhile p) := by
  intro c hc
  have hd := List.head?_dropWhile_not p s
  rw [Option.mem_def.mp hc] at hd
  exact hd

theorem takeWhile_append_of_endsRun {p : Char → Bool} {a rest : List Char}
    (ha : ∀ c ∈ a, p c = true) (hr : EndsRun p rest) : (a ++ rest).takeWhile p = a := by
  have hrest : rest.takeWhile p = [] := by
    cases rest with
    | nil => rfl
    | cons c s => rw [List.takeWhile_cons, hr c rfl, if_neg Bool.false_ne_true]
  rw [List.takeWhile_append_of_pos ha, hrest, List.append_nil]

theorem dropWhile_append_of_endsRun {p : Char → Bool} {a rest : List Char}
    (ha : ∀ c ∈ a, p c = true) (hr : EndsRun p rest) : (a ++ rest).dropWhile p = rest := by
  rw [List.dropWhile_append_of_pos ha]
  cases rest with
  | nil => rfl
  | cons c s => rw [List.dropWhile_cons, hr c rfl, if_neg Bool.false_ne_true]

theorem splitDigits_of_endsDigits {s : List Char} (h : EndsDigits s) : splitDigits s = ([], s) := by
  cases s with
  | nil => rfl
  | cons c s =>
    have hc : isAsciiDigit c = false := h c rfl
    rw [splitDigits, hc, if_neg Bool.false_ne_true]

theorem splitDigits_append {ds s : List Char} (hd : ∀ c ∈ ds, isAsciiDigit c = true)
    (hs : EndsDigits s) : splitDigits (ds ++ s) = (ds.map digitOf, s) := by
  induction ds with
  | nil => exact splitDigits_of_endsDigits hs
  | cons d ds ih =>
    obtain ⟨hd, hds⟩ := List.forall_mem_cons.mp hd
    rw [List.cons_append, splitDigits, if_pos hd, ih hds]
    rfl

theorem digits_eq_toDigits (n : Nat) : digits n = Nat.toDigits 10 n := Nat.toList_repr

theorem isAsciiDigit_of_mem_digits {n : Nat} {c : Char} (h : c ∈ digits n) :
    isAsciiDigit c = true := by
  rw [digits_eq_toDigits] at h
  exact Nat.isDigit_of_mem_toDigits (by decide) (by decide) h

theorem digits_ne_nil (n : Nat) : digits n ≠ [] := by
  rw [digits_eq_toDigits]
  exact Nat.toDigits_ne_nil

theorem ofDigits_digits (n : Nat) : ofDigits ((digits n).map digitOf) = n := by
  have hfold : ofDigits ((digits n).map digitOf) = Nat.ofDigitChars 10 (Nat.toDigits 10 n) 0 := by
    rw [ofDigits, List.foldl_map, digits_eq_toDigits, Nat.ofDigitChars]
    simp only [Nat.mul_comm]
    rfl
  rw [hfold, Nat.ofDigitChars_ten_toDigits]

theorem digits_of_lt {n : Nat} (h : n < 10) : digits n = [Nat.digitChar n] := by
  rw [digits_eq_toDigits, Nat.toDigits_eq_if (by decide), if_pos h]

theorem digits_of_le {n : Nat} (h : 10 ≤ n) :
    digits n = digits (n / 10) ++ [Nat.digitChar (n % 10)] := by
  rw [digits_eq_toDigits, digits_eq_toDigits, Nat.toDigits_of_base_le (by decide) h]

/-- Only zero begins with the digit zero. -/
theorem head?_digits_ne {n : Nat} (h : n ≠ 0) : (digits n).head? ≠ some '0' := by
  induction n using Nat.strongRecOn with
  | ind n ih =>
    rcases Nat.lt_or_ge n 10 with hn | hn
    · have hd : ∀ m < 10, m ≠ 0 → Nat.digitChar m ≠ '0' := by decide
      rw [digits_of_lt hn]
      simpa using hd n hn h
    · obtain ⟨d, ds, hds⟩ := List.exists_cons_of_ne_nil (digits_ne_nil (n / 10))
      have hhead := ih (n / 10) (by omega) (by omega)
      rw [hds] at hhead
      rwa [digits_of_le hn, hds]

theorem eq_zero_of_digitOf {c : Char} (h : isAsciiDigit c = true) (hz : digitOf c = 0) :
    c = '0' := by
  simp only [isAsciiDigit, Bool.and_eq_true, decide_eq_true_eq, Char.le_def] at h
  have h0 : ('0' : Char).toNat ≤ c.toNat := h.1
  have hc : c.toNat = ('0' : Char).toNat := by
    have hn : ('0' : Char).toNat = 48 := rfl
    simp only [digitOf] at hz
    omega
  exact Char.toNat_inj.mp hc

theorem ofDigits_append_singleton (ds : List Nat) (d : Nat) :
    ofDigits (ds ++ [d]) = ofDigits ds * 10 + d := by
  rw [ofDigits, List.foldl_append]
  rfl

theorem ofDigits_cons (d : Nat) (ds : List Nat) :
    ofDigits (d :: ds) = d * 10 ^ ds.length + ofDigits ds := by
  have hs : ∀ n, ds.foldl (fun n d => n * 10 + d) n = n * 10 ^ ds.length + ofDigits ds := by
    induction ds with
    | nil => simp [ofDigits]
    | cons e es ih =>
      intro n
      have he : ofDigits (e :: es) = e * 10 ^ es.length + ofDigits es := by
        rw [ofDigits, List.foldl_cons, ih, Nat.zero_mul, Nat.zero_add]
      rw [List.foldl_cons, ih, he, List.length_cons, Nat.pow_succ', ← Nat.mul_assoc, Nat.add_mul,
        Nat.add_assoc]
  rw [ofDigits, List.foldl_cons, hs, Nat.zero_mul, Nat.zero_add]

theorem ofDigits_lt {ds : List Nat} (h : ∀ d ∈ ds, d < 10) : ofDigits ds < 10 ^ ds.length := by
  induction ds with
  | nil => simp [ofDigits]
  | cons d ds ih =>
    obtain ⟨hd, hds⟩ := List.forall_mem_cons.mp h
    have hle : (d + 1) * 10 ^ ds.length ≤ 10 * 10 ^ ds.length := Nat.mul_le_mul_right _ hd
    have hlt := ih hds
    rw [ofDigits_cons, List.length_cons, Nat.pow_succ']
    rw [Nat.add_mul, Nat.one_mul] at hle
    omega

theorem le_ofDigits {d : Nat} (hd : d ≠ 0) (ds : List Nat) :
    10 ^ ds.length ≤ ofDigits (d :: ds) := by
  have hle : 1 * 10 ^ ds.length ≤ d * 10 ^ ds.length :=
    Nat.mul_le_mul_right _ (Nat.one_le_iff_ne_zero.mpr hd)
  rw [ofDigits_cons]
  omega

theorem ofDigits_append_zeros (ds : List Nat) (k : Nat) :
    ofDigits (ds ++ List.replicate k 0) = ofDigits ds * 10 ^ k := by
  induction k with
  | zero => simp
  | succ k ih =>
    rw [List.replicate_succ', ← List.append_assoc, ofDigits_append_singleton, ih, Nat.pow_succ,
      Nat.add_zero, Nat.mul_assoc]

theorem ofDigits_zeros_append (k : Nat) (ds : List Nat) :
    ofDigits (List.replicate k 0 ++ ds) = ofDigits ds := by
  induction k with
  | zero => rfl
  | succ k ih =>
    rw [List.replicate_succ, List.cons_append, ← ih]
    simp [ofDigits]

theorem ofDigits_dropWhile (ds : List Nat) : ofDigits (ds.dropWhile (· == 0)) = ofDigits ds := by
  induction ds with
  | nil => rfl
  | cons d ds ih =>
    rw [List.dropWhile_cons]
    split
    case isTrue h =>
      rw [ih, ofDigits_cons, eq_of_beq h, Nat.zero_mul, Nat.zero_add]
    case isFalse => rfl

theorem map_digitOf_zeros (k : Nat) : (zeros k).map digitOf = List.replicate k 0 := by
  rw [zeros, List.map_replicate]
  rfl

theorem isAsciiDigit_of_mem_zeros {k : Nat} {c : Char} (h : c ∈ zeros k) :
    isAsciiDigit c = true := by
  rw [(List.mem_replicate.mp h).2]
  rfl

theorem digitOf_lt {c : Char} (h : isAsciiDigit c = true) : digitOf c < 10 := by
  simp only [isAsciiDigit, Bool.and_eq_true, decide_eq_true_eq, Char.le_def] at h
  have h9 : c.toNat ≤ ('9' : Char).toNat := h.2
  have hn : ('9' : Char).toNat = 57 := rfl
  simp only [digitOf]
  omega

theorem exists_trimZeros (ds : List Char) : ∃ k, ds = trimZeros ds ++ zeros k := by
  have hsplit : ds = trimZeros ds ++ (ds.reverse.takeWhile (· == '0')).reverse := by
    rw [trimZeros, ← List.reverse_append, List.takeWhile_append_dropWhile, List.reverse_reverse]
  have hzeros : (ds.reverse.takeWhile (· == '0')).reverse =
      zeros (ds.reverse.takeWhile (· == '0')).length := by
    rw [zeros, ← List.reverse_replicate, List.reverse_inj, List.eq_replicate_iff]
    refine ⟨rfl, fun c hc => ?_⟩
    have hall := List.all_takeWhile (p := (· == '0')) (l := ds.reverse)
    simpa using List.all_eq_true.mp hall c hc
  exact ⟨_, hzeros ▸ hsplit⟩

end BuildingQuery.Number
