import Jadn.Proofs.Numeral
import Mathlib.Data.List.Basic
import Mathlib.Data.List.Induction
import Mathlib.Tactic.IntervalCases

/-!
Canonical numerals: a natural is written in one way without leading zeros, so that digits without
a leading zero are the digits of what they are read as.
-/

set_option autoImplicit false

namespace Jadn.Numeral

theorem isDigit_of_digit? {c : Char} {n : Nat} (h : digit? c = some n) : c.isDigit := by
  unfold digit? at h
  split at h
  · next bounds => exact Char.isDigit_iff_toNat.mpr bounds
  · cases h

theorem isDigit_eq (c : Char) : isDigit c = c.isDigit := by
  rw [Bool.eq_iff_iff, isDigit, Option.isSome_iff_exists]
  exact ⟨fun ⟨_, h⟩ => isDigit_of_digit? h, fun h => ⟨_, digit?_eq_some h⟩⟩

theorem digitChar_of_isDigit {c : Char} (h : c.isDigit) :
    c.toNat - '0'.toNat < 10 ∧ (c.toNat - '0'.toNat).digitChar = c := by
  obtain ⟨low, high⟩ := Char.isDigit_iff_toNat.mp h
  have least : '0'.toNat = 48 := rfl
  have greatest : '9'.toNat = 57 := rfl
  rw [least] at low ⊢
  rw [greatest] at high
  rw [← Char.ofNat_toNat c]
  generalize c.toNat = n at low high
  refine ⟨?_, ?_⟩
  · interval_cases n <;> decide
  · interval_cases n <;> rfl

theorem natural?_eq_some_iff {cs : List Char} {n : Nat} :
    natural? cs = some n ↔
      cs ≠ [] ∧ (∀ c ∈ cs, c.isDigit) ∧ Nat.ofDigitChars 10 cs 0 = n := by
  have digits : ∀ start v, cs.foldlM (fun n c => (digit? c).map (10 * n + ·)) start = some v →
      ∀ c ∈ cs, c.isDigit := by
    induction cs with
    | nil => simp
    | cons c cs ih =>
      intro start v read
      rw [List.foldlM_cons] at read
      obtain ⟨m, first, rest⟩ := Option.bind_eq_some_iff.mp read
      obtain ⟨k, digit, -⟩ := Option.map_eq_some_iff.mp first
      exact List.forall_mem_cons.mpr ⟨isDigit_of_digit? digit, ih m v rest⟩
  cases cs with
  | nil => simp [natural?]
  | cons c cs =>
    have value := fun h : ∀ x ∈ c :: cs, x.isDigit => foldlM_digits h 0
    simp only [natural?, List.isEmpty_cons, Bool.false_eq_true, if_false, value?, ne_eq,
      reduceCtorEq, not_false_eq_true, true_and]
    constructor
    · intro read
      have all := digits 0 n read
      exact ⟨all, Option.some.inj ((value all).symm.trans read)⟩
    · rintro ⟨all, rfl⟩
      exact value all

theorem foldl_filterMap_digit? {cs : List Char} (digits : ∀ c ∈ cs, c.isDigit) (start : Nat) :
    (cs.filterMap digit?).foldl (fun v d => v * 10 + d) start = Nat.ofDigitChars 10 cs start := by
  induction cs generalizing start with
  | nil => simp
  | cons c cs ih =>
    obtain ⟨first, rest⟩ := List.forall_mem_cons.mp digits
    rw [List.filterMap_cons_some (digit?_eq_some first), List.foldl_cons, ih rest,
      Nat.ofDigitChars_cons, Nat.mul_comm]

theorem toDigits_append_digit {n d : Nat} (positive : 0 < n) (digit : d < 10) :
    Nat.toDigits 10 (10 * n + d) = Nat.toDigits 10 n ++ [d.digitChar] := by
  rw [← Nat.toDigits_append_toDigits (by decide) positive digit, Nat.toDigits_of_lt_base digit]

theorem head?_toDigits {n : Nat} (positive : 0 < n) : (Nat.toDigits 10 n).head? ≠ some '0' := by
  induction n using Nat.strong_induction_on with
  | _ n ih =>
    by_cases small : n < 10
    · rw [Nat.toDigits_of_lt_base small]
      interval_cases n <;> decide
    · have tenth : 0 < n / 10 := by omega
      rw [← Nat.div_add_mod n 10, toDigits_append_digit tenth (Nat.mod_lt n (by decide)),
        List.head?_append_of_ne_nil _ Nat.toDigits_ne_nil]
      exact ih (n / 10) (by omega) tenth

/-- Digits without a leading zero are those of their value. -/
theorem toDigits_ofDigitChars {cs : List Char} (nonempty : cs ≠ []) (digits : ∀ c ∈ cs, c.isDigit)
    (leading : cs.head? = some '0' → cs = ['0']) :
    Nat.toDigits 10 (Nat.ofDigitChars 10 cs 0) = cs := by
  induction cs using List.reverseRecOn with
  | nil => exact absurd rfl nonempty
  | append_singleton cs c ih =>
    obtain ⟨small, last⟩ := digitChar_of_isDigit (digits c (by simp))
    rw [Nat.ofDigitChars_append, Nat.ofDigitChars_cons, Nat.ofDigitChars_nil]
    cases cs with
    | nil => rw [Nat.ofDigitChars_nil, Nat.mul_zero, Nat.zero_add, Nat.toDigits_of_lt_base small,
        last, List.nil_append]
    | cons first cs =>
      have other : first ≠ '0' := by
        rintro rfl
        simpa using leading rfl
      have before := ih (by simp) (fun c hc => digits c (List.mem_append_left _ hc))
        (fun zero => absurd (Option.some.inj zero) other)
      have positive : 0 < Nat.ofDigitChars 10 (first :: cs) 0 := by
        refine Nat.pos_of_ne_zero fun zero => other ?_
        rw [zero, Nat.toDigits_zero] at before
        exact (List.cons.inj before).1.symm
      rw [toDigits_append_digit positive small, before, last]

end Jadn.Numeral
