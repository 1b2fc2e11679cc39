import BuildingQuery.Number.Decimal
import BuildingQuery.Proofs.Number.Digits
import BuildingQuery.Proofs.Number.Nearest

/-! The shortest decimal of a float reads back as the float: whatever is found does, and with
seventeen digits one of the two neighbours on the decimal grid lies near enough. -/

namespace BuildingQuery.Number

theorem length_digits_le_iff {n k : ℕ} (hk : 0 < k) : (digits n).length ≤ k ↔ n < 10 ^ k := by
  rw [digits_eq_toDigits]
  exact Nat.length_toDigits_le_iff (by decide) hk

theorem lt_pow_digitCount (n : ℕ) : n < 10 ^ digitCount n := by
  rw [digitCount]
  split_ifs with h
  · omega
  · have hpos : 0 < (digits n).length := List.length_pos_iff.mpr (digits_ne_nil n)
    exact (length_digits_le_iff hpos).mp le_rfl

theorem pow_digitCount_le {n : ℕ} (h : n ≠ 0) : 10 ^ (digitCount n - 1) ≤ n := by
  rw [digitCount, if_neg h]
  rcases Nat.eq_zero_or_pos ((digits n).length - 1) with h1 | h1
  · rw [h1]
    omega
  · by_contra hlt
    have hle := (length_digits_le_iff h1).mpr (not_le.mp hlt)
    omega

theorem pow_decimalPlace_le {num den : ℕ} (hn : num ≠ 0) (hd : den ≠ 0) :
    (10 : ℚ) ^ decimalPlace num den ≤ (num : ℚ) / den := by
  have hd' : (0 : ℚ) < den := by exact_mod_cast Nat.pos_of_ne_zero hd
  have hn' : (0 : ℚ) < num := by exact_mod_cast Nat.pos_of_ne_zero hn
  rw [decimalPlace]
  split_ifs with h
  · have hdiv : num / den ≠ 0 := (Nat.div_pos h (Nat.pos_of_ne_zero hd)).ne'
    have hcount : 0 < digitCount (num / den) := by
      rw [digitCount, if_neg hdiv]
      exact List.length_pos_iff.mpr (digits_ne_nil _)
    have hplace : (digitCount (num / den) : ℤ) - 1 = (digitCount (num / den) - 1 : ℕ) := by omega
    rw [hplace, zpow_natCast, le_div_iff₀ hd']
    have hmul := Nat.mul_le_of_le_div _ _ _ (pow_digitCount_le hdiv)
    exact_mod_cast hmul
  · have hlt := lt_pow_digitCount ((den + num - 1) / num - 1)
    generalize digitCount ((den + num - 1) / num - 1) = c at hlt
    have hceil : den ≤ 10 ^ c * num := by
      have hsplit := Nat.div_add_mod (den + num - 1) num
      have hmod := Nat.mod_lt (den + num - 1) (Nat.pos_of_ne_zero hn)
      have hmul : num * ((den + num - 1) / num) ≤ num * 10 ^ c := Nat.mul_le_mul_left _ (by omega)
      rw [Nat.mul_comm (10 ^ c)]
      omega
    rw [zpow_neg, zpow_natCast, inv_le_comm₀ (by positivity) (by positivity), inv_div,
      div_le_iff₀ hn']
    exact_mod_cast hceil

theorem Decimal.num_div_den (d : Decimal) :
    (d.num : ℚ) / d.den = d.digits * 10 ^ d.exponent := by
  rw [num, den, zpow_eq_div (by norm_num)]
  simp only [Nat.pow_eq]
  push_cast
  rw [mul_div_assoc]

theorem Decimal.num_ne_zero {d : Decimal} (h : d.digits ≠ 0) : d.num ≠ 0 :=
  Nat.mul_ne_zero h (Nat.pow_pos (by decide)).ne'

theorem Decimal.den_ne_zero (d : Decimal) : d.den ≠ 0 := (Nat.pow_pos (by decide)).ne'

/-- A decimal that is read as the float with the given bits. -/
def Decimal.ReadsAs (d : Decimal) (bits : ℕ) : Prop :=
  d.digits ≠ 0 ∧ nearestBits d.num d.den = bits

theorem readsAs_iff {d : Decimal} {bits : ℕ} :
    (decide (d.digits ≠ 0) && nearestBits d.num d.den == bits) = true ↔ d.ReadsAs bits := by
  simp [Decimal.ReadsAs]

theorem readsAs_of_readBackAt {bits num den : ℕ} {e : ℤ} {d : Decimal}
    (h : readBackAt bits num den e = some d) : d.ReadsAs bits := by
  simp only [readBackAt, Bool.and_eq_true (_ && _)] at h
  split_ifs at h with hlow hhigh hhigh
  · obtain rfl := Option.some.inj h
    exact readsAs_iff.mp hhigh.1
  · obtain rfl := Option.some.inj h
    exact readsAs_iff.mp hlow
  · obtain rfl := Option.some.inj h
    exact readsAs_iff.mp hhigh

/-- The neighbour below a quotient on a decimal grid. -/
def neighbour (num den : ℕ) (e : ℤ) : Decimal :=
  ⟨num * Nat.pow 10 (-e).toNat / (den * Nat.pow 10 e.toNat), e⟩

theorem readBackAt_ne_none {bits num den : ℕ} {e : ℤ}
    (h : (neighbour num den e).ReadsAs bits ∨
      Decimal.ReadsAs ⟨(neighbour num den e).digits + 1, e⟩ bits) :
    readBackAt bits num den e ≠ none := by
  simp only [readBackAt, Bool.and_eq_true (_ && _)]
  split_ifs with hlow hhigh hhigh
  · simp
  · simp
  · simp
  · exact absurd h (not_or.mpr ⟨mt readsAs_iff.mpr hlow, mt readsAs_iff.mpr hhigh⟩)

theorem neighbour_eq_floor (num den : ℕ) (e : ℤ) :
    (neighbour num den e).digits = ⌊(num : ℚ) / den / 10 ^ e⌋₊ := by
  have hvalue : (num : ℚ) / den / 10 ^ e =
      (num * 10 ^ (-e).toNat : ℕ) / (den * 10 ^ e.toNat : ℕ) := by
    rw [zpow_eq_div (by norm_num)]
    push_cast
    field_simp
  rw [hvalue, Nat.floor_div_eq_div]
  rfl

/-- One of the neighbours of a quotient is no farther from it than half a step of the grid. -/
theorem neighbour_near (num den : ℕ) (e : ℤ) :
    |((neighbour num den e).digits : ℚ) * 10 ^ e - num / den| ≤ 10 ^ e / 2 ∨
      |((neighbour num den e).digits + 1 : ℚ) * 10 ^ e - num / den| ≤ 10 ^ e / 2 := by
  have hstep : (0 : ℚ) < 10 ^ e := by positivity
  have hlow := Nat.floor_le (by positivity : (0 : ℚ) ≤ (num : ℚ) / den / 10 ^ e)
  have hhigh := Nat.lt_floor_add_one ((num : ℚ) / den / 10 ^ e)
  rw [← neighbour_eq_floor, le_div_iff₀ hstep] at hlow
  rw [← neighbour_eq_floor, div_lt_iff₀ hstep] at hhigh
  generalize (num : ℚ) / den = x at hlow hhigh ⊢
  generalize ((neighbour num den e).digits : ℚ) = k at hlow hhigh ⊢
  rcases le_total (x - k * 10 ^ e) (10 ^ e / 2) with h | h
  · refine .inl (abs_le.mpr ⟨?_, ?_⟩) <;> linarith
  · refine .inr (abs_le.mpr ⟨?_, ?_⟩) <;> linarith

/-- A decimal that differs from a float in the seventeenth digit at most is read as the float. -/
theorem readsAs_of_near {bits m : ℕ} {q : ℤ} (hb : IsMagnitude bits m q) {d : Decimal}
    (hd : d.digits ≠ 0)
    (h : |(d.digits : ℚ) * 10 ^ d.exponent - m * 2 ^ q| ≤ m * 2 ^ q / 10 ^ 16 / 2) :
    d.ReadsAs bits := by
  have hp : (0 : ℚ) < 2 ^ q := by positivity
  have hm : (m : ℚ) < 10 ^ 16 := by
    exact_mod_cast hb.lt.trans (by norm_num)
  have hc : (m : ℚ) * 2 ^ q / 10 ^ 16 / 2 < 1 / 2 * 2 ^ q := by
    rw [div_div, div_lt_iff₀ (by norm_num)]
    nlinarith
  obtain ⟨hlow, hhigh⟩ := abs_le.mp h
  rw [← d.num_div_den] at hlow hhigh
  refine ⟨hd, nearestBits_of_near hb (Decimal.num_ne_zero hd) d.den_ne_zero ?_ ?_ fun hm => ?_⟩
  · linarith
  · linarith
  · have hcast : (m : ℚ) = 2 ^ 52 := by exact_mod_cast hm
    have hc : (m : ℚ) * 2 ^ q / 10 ^ 16 / 2 < 1 / 4 * 2 ^ q := by
      rw [div_div, div_lt_iff₀ (by norm_num), hcast]
      linarith
    linarith

theorem readsAs_shortest {bits m : ℕ} {q : ℤ} (hb : IsMagnitude bits m q) {num den : ℕ}
    (hn : num ≠ 0) (hd : den ≠ 0) (h : (num : ℚ) / den = m * 2 ^ q) :
    (shortest bits num den).ReadsAs bits := by
  obtain ⟨e, he⟩ : ∃ e, e = decimalPlace num den - 16 := ⟨_, rfl⟩
  have hgrid : (10 : ℚ) ^ e * 10 ^ 16 ≤ num / den := by
    have hplace := pow_decimalPlace_le hn hd
    have hpow : (10 : ℚ) ^ e * 10 ^ 16 = 10 ^ decimalPlace num den := by
      rw [he, zpow_sub₀ (by norm_num)]
      norm_num
    rwa [hpow]
  have hhalf : (10 : ℚ) ^ e / 2 ≤ m * 2 ^ q / 10 ^ 16 / 2 := by
    rw [← h]
    gcongr
    rwa [le_div_iff₀ (by norm_num)]
  -- The search ends with the grid of seventeen digits at the latest.
  have hsome : readBackAt bits num den (decimalPlace num den - (16 : ℕ)) ≠ none := by
    have hcast : decimalPlace num den - (16 : ℕ) = e := by
      rw [he]
      rfl
    rw [hcast]
    refine readBackAt_ne_none ?_
    rcases neighbour_near num den e with hnear | hnear
    · have hdigits : (neighbour num den e).digits ≠ 0 := by
        rw [neighbour_eq_floor]
        refine (Nat.floor_pos.mpr ?_).ne'
        rw [le_div_iff₀ (by positivity)]
        have hstep : (0 : ℚ) < 10 ^ e := by positivity
        linarith
      exact .inl (readsAs_of_near hb hdigits (by rw [← h] at hhalf ⊢; exact hnear.trans hhalf))
    · refine .inr (readsAs_of_near hb (Nat.succ_ne_zero _) ?_)
      push_cast
      rw [← h] at hhalf ⊢
      exact hnear.trans hhalf
  obtain ⟨d, hfind⟩ : ∃ d, ((List.range 17).findSome? fun (n : ℕ) =>
      readBackAt bits num den (decimalPlace num den - (n : ℤ))) = some d := by
    refine Option.ne_none_iff_exists'.mp fun hnone => ?_
    exact hsome (List.findSome?_eq_none_iff.mp hnone 16 (by simp))
  rw [shortest, hfind]
  obtain ⟨n, -, hn⟩ := List.exists_of_findSome?_eq_some hfind
  exact readsAs_of_readBackAt hn

end BuildingQuery.Number
