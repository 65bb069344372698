import Jadn.Binary64
import Mathlib.Algebra.Order.Field.Power
import Mathlib.Data.Int.Log
import Mathlib.Data.Rat.Floor
import Mathlib.Tactic.FieldSimp
import Mathlib.Tactic.NormNum
import Mathlib.Tactic.Positivity
import Mathlib.Tactic.Ring

/-!
Rounding depends on the value of a quotient only, and numbers round to themselves.

The exponent of the leading bit is the logarithm of the quotient, so what is made of it does
not change when both parts are scaled. A decimal is rounded like the quotient that it stands
for: the exponents that are answered at once are those of values beyond the range.
-/

set_option autoImplicit false

namespace Jadn.Binary64

section Powers

variable {b : ℚ}

theorem zpow_eq_div (hb : b ≠ 0) (e : ℤ) : b ^ e = b ^ e.toNat / b ^ (-e).toNat := by
  have exponents : e = (e.toNat : ℤ) - ((-e).toNat : ℤ) := by omega
  conv_lhs => rw [exponents, zpow_sub₀ hb, zpow_natCast, zpow_natCast]

/-- A quotient is at least a power if the parts are when the powers are cleared. -/
theorem mul_pow_le_iff {num den : ℕ} (hden : 0 < den) (e : ℤ) :
    den * Nat.pow 2 e.toNat ≤ num * Nat.pow 2 (-e).toNat ↔ (2 : ℚ) ^ e ≤ num / den := by
  rw [zpow_eq_div two_ne_zero, div_le_div_iff₀ (by positivity) (by positivity),
    mul_comm den, Nat.pow_eq, Nat.pow_eq]
  exact_mod_cast Iff.rfl

end Powers

section Leading

variable {num den : ℕ}

theorem log_eq_of_bounds {v : ℚ} {e : ℤ} (low : (2 : ℚ) ^ e ≤ v) (high : v < (2 : ℚ) ^ (e + 1)) :
    Int.log 2 v = e := by
  have hv : 0 < v := lt_of_lt_of_le (by positivity) low
  apply le_antisymm
  · have := (Int.lt_zpow_iff_log_lt one_lt_two hv).mp (by exact_mod_cast high)
    omega
  · exact (Int.zpow_le_iff_le_log one_lt_two hv).mp (by exact_mod_cast low)

theorem log2_bounds {n : ℕ} (hn : n ≠ 0) :
    (2 : ℚ) ^ (n.log2 : ℤ) ≤ n ∧ (n : ℚ) < (2 : ℚ) ^ ((n.log2 : ℤ) + 1) := by
  constructor
  · rw [zpow_natCast]
    exact_mod_cast Nat.log2_self_le hn
  · rw [show ((n.log2 : ℤ) + 1) = ((n.log2 + 1 : ℕ) : ℤ) by push_cast; rfl, zpow_natCast]
    exact_mod_cast Nat.lt_log2_self

/-- The exponent of the leading bit is the logarithm of the quotient. -/
theorem leadingBit_eq (hnum : num ≠ 0) (hden : den ≠ 0) :
    leadingBit num den = Int.log 2 (num / den : ℚ) := by
  obtain ⟨numLow, numHigh⟩ := log2_bounds hnum
  obtain ⟨denLow, denHigh⟩ := log2_bounds hden
  have hden' : (0 : ℚ) < den := by positivity
  set guess : ℤ := (num.log2 : ℤ) - den.log2 with hguess
  have below : (2 : ℚ) ^ (guess - 1) ≤ num / den := by
    rw [le_div_iff₀ hden']
    calc (2 : ℚ) ^ (guess - 1) * den
        ≤ 2 ^ (guess - 1) * 2 ^ ((den.log2 : ℤ) + 1) := by gcongr
      _ = 2 ^ (num.log2 : ℤ) := by
          rw [← zpow_add₀ two_ne_zero]
          congr 1
          omega
      _ ≤ num := numLow
  have above : (num / den : ℚ) < 2 ^ (guess + 1) := by
    rw [div_lt_iff₀ hden']
    calc (num : ℚ) < 2 ^ ((num.log2 : ℤ) + 1) := numHigh
      _ = 2 ^ (guess + 1) * 2 ^ (den.log2 : ℤ) := by
          rw [← zpow_add₀ two_ne_zero]
          congr 1
          omega
      _ ≤ 2 ^ (guess + 1) * den := by gcongr
  unfold leadingBit
  rw [← hguess]
  dsimp only
  by_cases reached : (2 : ℚ) ^ guess ≤ num / den
  · rw [if_pos ((mul_pow_le_iff (Nat.pos_of_ne_zero hden) guess).mpr reached)]
    exact (log_eq_of_bounds reached above).symm
  · rw [if_neg (fun h => reached ((mul_pow_le_iff (Nat.pos_of_ne_zero hden) guess).mp h))]
    refine (log_eq_of_bounds below ?_).symm
    rw [sub_add_cancel]
    exact not_le.mp reached

end Leading

section Rounding

theorem roundHalfEven_scale (num den : ℕ) {c : ℕ} (hc : 0 < c) :
    roundHalfEven (num * c) (den * c) = roundHalfEven num den := by
  have less : 2 * (num % den * c) < den * c ↔ 2 * (num % den) < den := by
    rw [← mul_assoc, Nat.mul_lt_mul_right hc]
  have same : 2 * (num % den * c) = den * c ↔ 2 * (num % den) = den := by
    rw [← mul_assoc, Nat.mul_left_inj hc.ne']
  unfold roundHalfEven
  rw [Nat.mul_div_mul_right _ _ hc, Nat.mul_mod_mul_right]
  simp only [less, beq_eq_decide, same]

theorem roundHalfEven_one (n : ℕ) : roundHalfEven n 1 = n := by
  simp [roundHalfEven, Nat.mod_one]

theorem roundHalfEven_of_small {num den : ℕ} (small : 2 * num < den) :
    roundHalfEven num den = 0 := by
  have less : num < den := by omega
  simp [roundHalfEven, Nat.div_eq_of_lt less, Nat.mod_eq_of_lt less, small]

theorem ofRatio?_scale (negative : Bool) (num : ℕ) {den c : ℕ} (hden : den ≠ 0) (hc : 0 < c) :
    ofRatio? negative (num * c) (den * c) = ofRatio? negative num den := by
  by_cases zero : num = 0
  · simp [ofRatio?, zero]
  · have scaled : num * c ≠ 0 := Nat.mul_ne_zero zero hc.ne'
    have leading : leadingBit (num * c) (den * c) = leadingBit num den := by
      rw [leadingBit_eq scaled (Nat.mul_ne_zero hden hc.ne'), leadingBit_eq zero hden]
      push_cast
      rw [mul_div_mul_right _ _ (by positivity)]
    unfold ofRatio?
    rw [if_neg scaled, if_neg zero, leading]
    simp only [Nat.mul_right_comm _ c, roundHalfEven_scale _ _ hc]

/-- Equal quotients are rounded to the same number. -/
theorem ofRatio?_congr (negative : Bool) {num den num' den' : ℕ} (hden : den ≠ 0)
    (hden' : den' ≠ 0) (same : (num / den : ℚ) = num' / den') :
    ofRatio? negative num den = ofRatio? negative num' den' := by
  have crossed : num * den' = num' * den := by
    rw [div_eq_div_iff (by exact_mod_cast hden) (by exact_mod_cast hden')] at same
    exact_mod_cast same
  rw [← ofRatio?_scale negative num hden (Nat.pos_of_ne_zero hden'), crossed, mul_comm den,
    ofRatio?_scale negative num' hden' (Nat.pos_of_ne_zero hden)]

theorem ofParts?_parts (x : Binary64) :
    ofParts? x.negative x.mantissa x.exponent = some x := by
  rw [ofParts?, dif_pos x.canonical]

def magnitude (x : Binary64) : ℚ := x.mantissa * 2 ^ x.exponent

theorem ratio_snd_ne_zero (x : Binary64) : x.ratio.2 ≠ 0 := (Nat.pow_pos two_pos).ne'

theorem ratio_eq_magnitude (x : Binary64) : (x.ratio.1 / x.ratio.2 : ℚ) = x.magnitude := by
  rw [magnitude, zpow_eq_div two_ne_zero, mul_div_assoc']
  simp [ratio]

theorem eq_zero_of_isZero {x : Binary64} (h : x.isZero = true) : x = zero x.negative := by
  have mantissa : x.mantissa = 0 := beq_iff_eq.mp h
  have exponent : x.exponent = -1074 := by
    obtain ⟨-, -, -, least | full⟩ := x.canonical
    · exact least
    · rw [mantissa, leastFull] at full
      omega
  obtain ⟨negative, m, e, canonical⟩ := x
  subst mantissa
  subst exponent
  rfl

theorem log_magnitude {x : Binary64} (h : x.mantissa ≠ 0) :
    Int.log 2 x.magnitude = x.mantissa.log2 + x.exponent := by
  obtain ⟨low, high⟩ := log2_bounds h
  apply log_eq_of_bounds
  · rw [magnitude, zpow_add₀ two_ne_zero]
    gcongr
  · rw [magnitude, add_right_comm, zpow_add₀ two_ne_zero]
    gcongr

theorem unit_eq {x : Binary64} (h : x.mantissa ≠ 0) :
    max (Int.log 2 x.magnitude - 52) (-1074) = x.exponent := by
  rw [log_magnitude h]
  obtain ⟨bound, least, -, full⟩ := x.canonical
  have short : x.mantissa.log2 < 53 := (Nat.log2_lt h).mpr (by simpa [leastFull] using bound)
  rcases full with subnormal | full
  · omega
  · have long : 52 ≤ x.mantissa.log2 := (Nat.le_log2 h).mpr (by simpa [leastFull] using full)
    omega

/-- A number is what its quotient is rounded to. -/
theorem ofRatio?_ratio (x : Binary64) : ofRatio? x.negative x.ratio.1 x.ratio.2 = some x := by
  by_cases h : x.mantissa = 0
  · have isZero : x.isZero = true := beq_iff_eq.mpr h
    have none : x.ratio.1 = 0 := by simp [ratio, h]
    rw [ofRatio?, if_pos none, ← eq_zero_of_isZero isZero]
  · have num : x.ratio.1 ≠ 0 := Nat.mul_ne_zero h (Nat.pow_pos two_pos).ne'
    have unit : max (leadingBit x.ratio.1 x.ratio.2 - 52) (-1074) = x.exponent := by
      rw [leadingBit_eq num x.ratio_snd_ne_zero, ratio_eq_magnitude, unit_eq h]
    have mantissa : roundHalfEven (x.ratio.1 * Nat.pow 2 (-x.exponent).toNat)
        (x.ratio.2 * Nat.pow 2 x.exponent.toNat) = x.mantissa := by
      have scale : 0 < Nat.pow 2 x.exponent.toNat * Nat.pow 2 (-x.exponent).toNat :=
        Nat.mul_pos (Nat.pow_pos two_pos) (Nat.pow_pos two_pos)
      have exact := roundHalfEven_scale x.mantissa 1 scale
      rw [roundHalfEven_one] at exact
      rw [← exact]
      congr 1
      · simp only [ratio]
        ring
      · simp only [ratio]
        ring
    have bound : x.mantissa ≠ 2 * leastFull := x.canonical.1.ne
    rw [ofRatio?, if_neg num]
    simp only [unit, mantissa, if_neg bound]
    exact ofParts?_parts x

theorem ofRatio?_of_div_eq {x : Binary64} {num den : ℕ} (hden : den ≠ 0)
    (same : (num / den : ℚ) = x.magnitude) : ofRatio? x.negative num den = some x := by
  rw [← ofRatio?_ratio x]
  apply ofRatio?_congr x.negative hden x.ratio_snd_ne_zero
  rw [same, ratio_eq_magnitude]

theorem ofRatio?_of_large (negative : Bool) {num den : ℕ} {e : ℤ} (hnum : num ≠ 0) (hden : den ≠ 0)
    (he : 1025 ≤ e) (large : (2 : ℚ) ^ e ≤ num / den) : ofRatio? negative num den = none := by
  have pos : (0 : ℚ) < num / den := by positivity
  have leading : e ≤ leadingBit num den := by
    rw [leadingBit_eq hnum hden]
    exact (Int.zpow_le_iff_le_log one_lt_two pos).mp (by exact_mod_cast large)
  have beyond : ∀ mantissa exponent, 971 < exponent →
      ofParts? negative mantissa exponent = none := by
    intro mantissa exponent h
    rw [ofParts?, dif_neg]
    rintro ⟨-, -, most, -⟩
    omega
  rw [ofRatio?, if_neg hnum]
  dsimp only
  split
  · apply beyond
    omega
  · apply beyond
    omega

theorem mul_pow_lt_of_lt {num den : ℕ} (hden : den ≠ 0) {n : ℕ}
    (small : (num / den : ℚ) < 2 ^ (-(n : ℤ))) : num * 2 ^ n < den := by
  rw [zpow_neg, zpow_natCast, div_lt_iff₀ (by positivity), ← div_eq_inv_mul,
    lt_div_iff₀ (by positivity)] at small
  exact_mod_cast small

theorem ofRatio?_of_small (negative : Bool) {num den : ℕ} {n : ℕ} (hden : den ≠ 0)
    (hn : 1075 ≤ n) (small : (num / den : ℚ) < 2 ^ (-(n : ℤ))) :
    ofRatio? negative num den = some (zero negative) := by
  by_cases hnum : num = 0
  · rw [ofRatio?, if_pos hnum]
  · have pos : (0 : ℚ) < num / den := by positivity
    have leading : leadingBit num den < -(n : ℤ) := by
      rw [leadingBit_eq hnum hden]
      exact (Int.lt_zpow_iff_log_lt one_lt_two pos).mp (by exact_mod_cast small)
    have unit : max (leadingBit num den - 52) (-1074) = -1074 := by omega
    have rounded : ∀ k, k + 1 ≤ n → roundHalfEven (num * Nat.pow 2 k) den = 0 := by
      intro k hk
      apply roundHalfEven_of_small
      rw [Nat.pow_eq]
      calc 2 * (num * 2 ^ k) = num * 2 ^ (k + 1) := by ring
        _ ≤ num * 2 ^ n := by gcongr; exact one_le_two
        _ < den := mul_pow_lt_of_lt hden small
    have none : roundHalfEven (num * Nat.pow 2 (- -1074 : ℤ).toNat)
        (den * Nat.pow 2 (-1074 : ℤ).toNat) = 0 := by
      rw [show den * Nat.pow 2 (-1074 : ℤ).toNat = den from mul_one den]
      exact rounded (- -1074 : ℤ).toNat hn
    rw [ofRatio?, if_neg hnum]
    simp only [unit, none]
    rfl

end Rounding

end Jadn.Binary64
