import Jadn.Binary64.Shortest
import Jadn.Proofs.Binary64.Rounding

/-!
Decimals round by their value, and the shortest decimal of a number reads back.

The search for the shortest decimal tries each candidate before it is taken, and the exact
decimal that stands behind it has the value of the number.
-/

set_option autoImplicit false

namespace Jadn.Binary64

section Decimals

theorem pow_ten_ne_zero (n : ℕ) : Nat.pow 10 n ≠ 0 := (Nat.pow_pos (by decide)).ne'

theorem decimal_div_eq (digits : ℕ) (e : ℤ) :
    ((digits * Nat.pow 10 e.toNat : ℕ) / (Nat.pow 10 (-e).toNat : ℕ) : ℚ) =
      digits * (10 : ℚ) ^ e := by
  rw [zpow_eq_div (by norm_num : (10 : ℚ) ≠ 0), mul_div_assoc']
  simp

theorem two_pow_le_ten_pow : ((2 : ℚ) ^ (3 : ℤ)) ^ (400 : ℤ) ≤ 10 ^ (400 : ℤ) := by
  apply zpow_le_zpow_left₀ (by norm_num) (by positivity)
  norm_num

/-- The values that are refused at once are beyond all numbers. -/
theorem large_decimal {digits : ℕ} (h : digits ≠ 0) {e : ℤ}
    (large : 400 < e + (digits.log2 : ℤ) / 4) : (2 : ℚ) ^ (1200 : ℤ) ≤ digits * (10 : ℚ) ^ e := by
  have quarter : 4 * (digits.log2 / 4) ≤ digits.log2 := Nat.mul_div_le _ _
  have many : (10 : ℚ) ^ (digits.log2 / 4) ≤ digits := by
    calc (10 : ℚ) ^ (digits.log2 / 4) ≤ (2 ^ 4) ^ (digits.log2 / 4) := by gcongr; norm_num
      _ = 2 ^ (4 * (digits.log2 / 4)) := by rw [pow_mul]
      _ ≤ 2 ^ digits.log2 := by gcongr; norm_num
      _ ≤ digits := by exact_mod_cast Nat.log2_self_le h
  have exponent : (400 : ℤ) ≤ (digits.log2 / 4 : ℕ) + e := by omega
  calc (2 : ℚ) ^ (1200 : ℤ) = ((2 : ℚ) ^ (3 : ℤ)) ^ (400 : ℤ) := by
        rw [← zpow_mul]
        norm_num
    _ ≤ 10 ^ (400 : ℤ) := two_pow_le_ten_pow
    _ ≤ 10 ^ ((digits.log2 / 4 : ℕ) + e) := by gcongr; norm_num
    _ = 10 ^ (digits.log2 / 4) * 10 ^ e := by
        rw [zpow_add₀ (by norm_num), zpow_natCast]
    _ ≤ digits * 10 ^ e := by gcongr

theorem small_decimal {digits : ℕ} {e : ℤ} (small : e + (digits.log2 : ℤ) < -400) :
    digits * (10 : ℚ) ^ e < 2 ^ (-((1199 : ℕ) : ℤ)) := by
  have few : (digits : ℚ) < 2 * 10 ^ digits.log2 := by
    calc (digits : ℚ) < 2 ^ (digits.log2 + 1) := by exact_mod_cast Nat.lt_log2_self
      _ = 2 * 2 ^ digits.log2 := by ring
      _ ≤ 2 * 10 ^ digits.log2 := by gcongr; norm_num
  calc digits * (10 : ℚ) ^ e < 2 * 10 ^ digits.log2 * 10 ^ e := by gcongr
    _ = 2 * 10 ^ (digits.log2 + e : ℤ) := by
        rw [zpow_add₀ (by norm_num), zpow_natCast, mul_assoc]
    _ ≤ 2 * 10 ^ (-400 : ℤ) := by
        gcongr
        · norm_num
        · omega
    _ ≤ 2 * (2 ^ (3 : ℤ)) ^ (-400 : ℤ) := by
        rw [zpow_neg, zpow_neg]
        gcongr 2 * ?_
        exact inv_anti₀ (by positivity) two_pow_le_ten_pow
    _ = 2 ^ (-((1199 : ℕ) : ℤ)) := by
        rw [← zpow_mul, ← zpow_one_add₀ two_ne_zero]
        norm_num

/-- A decimal is rounded like the quotient that it stands for. -/
theorem ofDecimal?_eq (negative : Bool) {digits : ℕ} (h : digits ≠ 0) (e : ℤ) :
    ofDecimal? negative digits e =
      ofRatio? negative (digits * Nat.pow 10 e.toNat) (Nat.pow 10 (-e).toNat) := by
  have num : digits * Nat.pow 10 e.toNat ≠ 0 := Nat.mul_ne_zero h (pow_ten_ne_zero _)
  have den := pow_ten_ne_zero (-e).toNat
  rw [ofDecimal?, if_neg h]
  dsimp only
  split
  · next large =>
    refine (ofRatio?_of_large negative num den (by norm_num : (1025 : ℤ) ≤ 1200) ?_).symm
    rw [decimal_div_eq]
    exact large_decimal h large
  · split
    · next small =>
      refine (ofRatio?_of_small negative den (by norm_num : 1075 ≤ 1199) ?_).symm
      rw [decimal_div_eq]
      exact small_decimal small
    · rfl

theorem ofDecimal?_congr (negative : Bool) {digits digits' : ℕ} {e e' : ℤ}
    (same : digits * (10 : ℚ) ^ e = digits' * 10 ^ e') :
    ofDecimal? negative digits e = ofDecimal? negative digits' e' := by
  have power : ∀ k : ℤ, (10 : ℚ) ^ k ≠ 0 := fun k => zpow_ne_zero k (by norm_num)
  by_cases h : digits = 0
  · have h' : digits' = 0 := by
      simpa [h, power e'] using same.symm
    simp [ofDecimal?, h, h']
  · have h' : digits' ≠ 0 := by
      rintro rfl
      simp [h, power e] at same
    rw [ofDecimal?_eq negative h, ofDecimal?_eq negative h']
    apply ofRatio?_congr negative (pow_ten_ne_zero _) (pow_ten_ne_zero _)
    rw [decimal_div_eq, decimal_div_eq, same]

end Decimals

section Shortest

theorem ofDecimal?_of_eq_magnitude {x : Binary64} {digits : ℕ} {e : ℤ} (h : digits ≠ 0)
    (same : digits * (10 : ℚ) ^ e = x.magnitude) : ofDecimal? x.negative digits e = some x := by
  rw [ofDecimal?_eq x.negative h]
  apply ofRatio?_of_div_eq (pow_ten_ne_zero _)
  rw [decimal_div_eq, same]

theorem readsBack_of_onGrid? {tie : Tie} {x : Binary64} {e : ℤ} {d : Decimal}
    (h : onGrid? tie x e = some d) : readsBack x d = true := by
  unfold onGrid? at h
  dsimp only at h
  split at h
  · cases h
  · next below _ =>
    cases h
    exact below
  · next _ above =>
    cases h
    exact above
  · next below above =>
    split at h
    · cases h
      exact below
    · split at h
      · cases h
        exact above
      · split at h
        · split at h
          · cases h
            exact below
          · cases h
            exact above
        · cases h
          exact above

theorem exact_decimal (x : Binary64) :
    ((x.mantissa * Nat.pow 2 x.exponent.toNat * Nat.pow 5 (-x.exponent).toNat : ℕ) : ℚ) *
      10 ^ min x.exponent 0 = x.magnitude := by
  rw [magnitude]
  rcases le_or_gt 0 x.exponent with whole | fractional
  · obtain ⟨n, hn⟩ := Int.eq_ofNat_of_zero_le whole
    simp [hn]
  · obtain ⟨n, hn⟩ : ∃ n : ℕ, x.exponent = -(n : ℤ) := ⟨(-x.exponent).toNat, by omega⟩
    have ten : (10 : ℚ) ^ n = 2 ^ n * 5 ^ n := by
      rw [← mul_pow]
      norm_num
    simp [hn, ten]
    field_simp

/-- The shortest decimal of a number reads back. -/
theorem ofDecimal?_shortest (tie : Tie) {x : Binary64} (h : x.isZero = false) :
    ofDecimal? x.negative (shortest tie x).digits (shortest tie x).exponent = some x := by
  unfold shortest
  dsimp only
  split
  · next d found =>
    obtain ⟨e, -, onGrid⟩ := List.exists_of_findSome?_eq_some found
    exact of_decide_eq_true (readsBack_of_onGrid? onGrid)
  · have mantissa : x.mantissa ≠ 0 := by simpa [isZero] using h
    apply ofDecimal?_of_eq_magnitude
    · exact Nat.mul_ne_zero (Nat.mul_ne_zero mantissa (Nat.pow_pos (by decide)).ne')
        (Nat.pow_pos (by decide)).ne'
    · exact exact_decimal x

theorem shortest_digits_ne_zero (tie : Tie) {x : Binary64} (h : x.isZero = false) :
    (shortest tie x).digits ≠ 0 := by
  intro none
  have reads := ofDecimal?_shortest tie h
  rw [none, ofDecimal?, if_pos rfl, Option.some.injEq] at reads
  rw [← reads] at h
  cases h

end Shortest

end Jadn.Binary64
