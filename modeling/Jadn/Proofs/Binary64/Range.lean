import Jadn.Proofs.Binary64.Decimal
import Mathlib.Tactic.Linarith

/-!
Which values are rounded to a number.

The largest number is `2 ^ 1024 - 2 ^ 971`. Values that are nearer to it than to `2 ^ 1024` are
rounded to it, and the value half way between goes to the even mantissa, which is that of
`2 ^ 1024`; so a number is found for the values below `2 ^ 1024 - 2 ^ 970` and for no others.
-/

set_option autoImplicit false

namespace Jadn.Binary64

section Nearest

variable {num den n : ℕ}

theorem le_roundHalfEven (hden : 0 < den) (h : n * den ≤ num) : n ≤ roundHalfEven num den := by
  have quotient : n ≤ num / den := (Nat.le_div_iff_mul_le hden).mpr h
  unfold roundHalfEven
  dsimp only
  split <;> omega

theorem roundHalfEven_le (hden : 0 < den) (h : num ≤ n * den) : roundHalfEven num den ≤ n := by
  have parts := Nat.div_add_mod num den
  unfold roundHalfEven
  dsimp only
  rcases Nat.lt_or_ge (num / den) n with less | reached
  · split <;> omega
  · have top : num / den ≤ n := Nat.div_le_of_le_mul (Nat.mul_comm n den ▸ h)
    have same : num / den = n := Nat.le_antisymm top reached
    have exact : num % den = 0 := by
      rw [same, Nat.mul_comm] at parts
      omega
    simp [same, exact, hden]

theorem roundHalfEven_lt_iff (hden : 0 < den) (even : n % 2 = 0) (positive : 0 < n) :
    roundHalfEven num den < n ↔ 2 * num < (2 * n - 1) * den := by
  have parts := Nat.div_add_mod num den
  have rest := Nat.mod_lt num hden
  obtain ⟨k, rfl⟩ : ∃ k, n = k + 1 := ⟨n - 1, by omega⟩
  have half : (2 * (k + 1) - 1) * den = 2 * (den * k) + den := by
    rw [show 2 * (k + 1) - 1 = 2 * k + 1 by omega]
    ring
  rw [half]
  generalize hq : num / den = q at parts
  generalize hr : num % den = r at parts rest
  unfold roundHalfEven
  rw [hq, hr]
  dsimp only
  rcases lt_trichotomy q k with less | rfl | more
  · have below : den * (q + 1) ≤ den * k := Nat.mul_le_mul_left den less
    rw [Nat.mul_succ] at below
    split <;> omega
  · have odd : q % 2 = 1 := by omega
    simp only [odd, Bool.and_false, Bool.or_false, decide_eq_true_eq,
      show ((1 : ℕ) == 0) = false from rfl]
    split <;> omega
  · have above : den * (k + 1) ≤ den * q := Nat.mul_le_mul_left den more
    rw [Nat.mul_succ] at above
    split <;> omega

end Nearest

theorem two_mul_zpow_le {a b : ℤ} (h : a < b) : 2 * (2 : ℚ) ^ a ≤ 2 ^ b := by
  rw [← zpow_one_add₀ two_ne_zero]
  exact zpow_le_zpow_right₀ one_le_two (by omega)

/-- The least value that is too large for a number. -/
def limit : ℚ := 2 ^ 1024 - 2 ^ 970

/-- The limit lies half a unit below the first mantissa of one bit too many. -/
theorem limit_eq : limit = (2 ^ 53 - 1 / 2) * 2 ^ (971 : ℤ) := by
  have top : (2 : ℚ) ^ 1024 = 2 ^ 53 * 2 ^ 971 := by rw [← pow_add]
  have half : (2 : ℚ) ^ 971 = 2 ^ 970 * 2 := pow_succ 2 970
  have exponent : (2 : ℚ) ^ (971 : ℤ) = 2 ^ 971 := zpow_natCast 2 971
  rw [limit, exponent, top, half]
  generalize (2 : ℚ) ^ 970 = unit
  ring

theorem limit_pos : 0 < limit := by
  rw [limit_eq]
  exact mul_pos (by norm_num) (by positivity)

section Parts

variable {negative : Bool} {mantissa : ℕ} {e : ℤ}

theorem isSome_ofParts?_iff : (ofParts? negative mantissa e).isSome ↔ Canonical mantissa e := by
  unfold ofParts?
  split
  · next canonical => exact iff_of_true rfl canonical
  · next other => exact iff_of_false Bool.false_ne_true other

/-- A rounded mantissa makes a number unless its exponent is too large, a mantissa of one bit too
many counting as the next exponent. -/
theorem isSome_rounded_iff (least : -1074 ≤ e) (bound : mantissa ≤ 2 * leastFull)
    (full : e = -1074 ∨ leastFull ≤ mantissa) :
    (if mantissa = 2 * leastFull then ofParts? negative leastFull (e + 1)
      else ofParts? negative mantissa e).isSome ↔
        e < 971 ∨ e = 971 ∧ mantissa < 2 * leastFull := by
  split
  · rw [isSome_ofParts?_iff, Canonical]
    have positive : 0 < leastFull := by decide
    omega
  · rw [isSome_ofParts?_iff, Canonical]
    omega

end Parts

/-- A value in units of the last place is below the limit if its exponent is, or if it lies more
than a half below a mantissa of one bit too many. -/
theorem mul_zpow_lt_limit_iff {q : ℚ} {e : ℤ} (high : q < 2 ^ 53)
    (low : e = -1074 ∨ 2 ^ 52 ≤ q) :
    q * 2 ^ e < limit ↔ e < 971 ∨ e = 971 ∧ q < 2 ^ 53 - 1 / 2 := by
  have power : (0 : ℚ) < 2 ^ e := by positivity
  rw [limit_eq]
  rcases lt_trichotomy e 971 with small | rfl | large
  · refine iff_of_true ?_ (.inl small)
    have less := two_mul_zpow_le small
    calc q * 2 ^ e < 2 ^ 53 * 2 ^ e := by gcongr
      _ ≤ (2 ^ 53 - 1 / 2) * (2 * 2 ^ e) := by linarith
      _ ≤ (2 ^ 53 - 1 / 2) * 2 ^ (971 : ℤ) := mul_le_mul_of_nonneg_left less (by norm_num)
  · rw [mul_lt_mul_iff_left₀ power]
    simp
  · refine iff_of_false (not_lt.mpr ?_) (by omega)
    have more := two_mul_zpow_le large
    have full : 2 ^ 52 ≤ q := low.resolve_left (by omega)
    have greatest : (0 : ℚ) < 2 ^ (971 : ℤ) := by positivity
    generalize (2 : ℚ) ^ (971 : ℤ) = g at more greatest ⊢
    calc (2 ^ 53 - 1 / 2) * g ≤ 2 ^ 52 * (2 * g) := by linarith
      _ ≤ 2 ^ 52 * 2 ^ e := mul_le_mul_of_nonneg_left more (by norm_num)
      _ ≤ q * 2 ^ e := mul_le_mul_of_nonneg_right full power.le

section Quotient

variable {num den : ℕ}

theorem roundHalfEven_lt_full_iff (hden : 0 < den) :
    roundHalfEven num den < 2 * leastFull ↔ (num / den : ℚ) < 2 ^ 53 - 1 / 2 := by
  have hden' : (0 : ℚ) < den := by exact_mod_cast hden
  have halves : 2 * (2 * leastFull) - 1 = 2 ^ 54 - 1 := rfl
  have cast : 2 * num < (2 ^ 54 - 1) * den ↔ (2 * num : ℚ) < (2 ^ 54 - 1) * den := by
    rw [← Nat.cast_lt (α := ℚ)]
    push_cast
    norm_num
  rw [roundHalfEven_lt_iff hden (by decide) (by decide), halves, cast, div_lt_iff₀ hden']
  constructor <;> intro less <;> linarith

theorem scaled_div_eq (num den : ℕ) (e : ℤ) :
    ((num * Nat.pow 2 (-e).toNat : ℕ) / (den * Nat.pow 2 e.toNat : ℕ) : ℚ) =
      num / den / 2 ^ e := by
  rw [zpow_eq_div two_ne_zero, div_div_eq_mul_div]
  push_cast
  rw [mul_div_mul_comm, mul_div_assoc]
  simp

variable (hnum : num ≠ 0) (hden : den ≠ 0)
include hnum hden

theorem scaled_bounds {e : ℤ} (unit : max (Int.log 2 (num / den : ℚ) - 52) (-1074) = e) :
    (num / den / 2 ^ e : ℚ) < 2 ^ 53 ∧ (e = -1074 ∨ (2 : ℚ) ^ 52 ≤ num / den / 2 ^ e) := by
  have pos : (0 : ℚ) < num / den := by positivity
  have power : (0 : ℚ) < 2 ^ e := by positivity
  have above := Int.lt_zpow_succ_log_self (b := 2) one_lt_two (num / den : ℚ)
  constructor
  · rw [div_lt_iff₀ power]
    calc (num / den : ℚ) < 2 ^ (Int.log 2 (num / den : ℚ) + 1) := by exact_mod_cast above
      _ ≤ 2 ^ ((53 : ℕ) + e : ℤ) := zpow_le_zpow_right₀ one_le_two (by omega)
      _ = 2 ^ 53 * 2 ^ e := by rw [zpow_add₀ two_ne_zero, zpow_natCast]
  · rcases eq_or_ne e (-1074) with least | normal
    · exact .inl least
    · refine .inr ((le_div_iff₀ power).mpr ?_)
      calc (2 : ℚ) ^ 52 * 2 ^ e = 2 ^ ((52 : ℕ) + e : ℤ) := by
            rw [zpow_add₀ two_ne_zero, zpow_natCast]
        _ = 2 ^ Int.log 2 (num / den : ℚ) := by
            congr 1
            omega
        _ ≤ num / den := by exact_mod_cast Int.zpow_log_le_self one_lt_two pos

theorem isSome_ofRatio?_iff (negative : Bool) :
    (ofRatio? negative num den).isSome ↔ (num / den : ℚ) < limit := by
  generalize unit : max (Int.log 2 (num / den : ℚ) - 52) (-1074) = e
  obtain ⟨high, low⟩ := scaled_bounds hnum hden unit
  have den' : 0 < den * Nat.pow 2 e.toNat :=
    Nat.mul_pos (Nat.pos_of_ne_zero hden) (Nat.pow_pos two_pos)
  have quotient := scaled_div_eq num den e
  have power : (0 : ℚ) < 2 ^ e := by positivity
  unfold ofRatio?
  rw [if_neg hnum, leadingBit_eq hnum hden, unit]
  dsimp only
  generalize num * Nat.pow 2 (-e).toNat = scaled at quotient ⊢
  generalize den * Nat.pow 2 e.toNat = unity at den' quotient ⊢
  have den'' : (0 : ℚ) < unity := by exact_mod_cast den'
  have value : (num / den : ℚ) = scaled / unity * 2 ^ e := by
    rw [quotient, div_mul_cancel₀ _ power.ne']
  rw [← quotient] at high low
  have bound : roundHalfEven scaled unity ≤ 2 * leastFull := by
    apply roundHalfEven_le den'
    rw [div_lt_iff₀ den''] at high
    exact_mod_cast high.le
  have full : e = -1074 ∨ leastFull ≤ roundHalfEven scaled unity := by
    refine low.imp_right fun low => le_roundHalfEven den' ?_
    rw [le_div_iff₀ den''] at low
    exact_mod_cast low
  rw [isSome_rounded_iff (by omega) bound full, roundHalfEven_lt_full_iff den', value,
    mul_zpow_lt_limit_iff high low]

end Quotient

theorem isSome_ofDecimal?_iff (negative : Bool) (digits : ℕ) (e : ℤ) :
    (ofDecimal? negative digits e).isSome ↔ digits * (10 : ℚ) ^ e < limit := by
  by_cases zero : digits = 0
  · refine iff_of_true ?_ ?_
    · rw [ofDecimal?, if_pos zero]
      rfl
    · rw [zero, Nat.cast_zero, zero_mul]
      exact limit_pos
  · have num : digits * Nat.pow 10 e.toNat ≠ 0 := Nat.mul_ne_zero zero (pow_ten_ne_zero _)
    rw [ofDecimal?_eq negative zero, isSome_ofRatio?_iff num (pow_ten_ne_zero _), decimal_div_eq]

end Jadn.Binary64
