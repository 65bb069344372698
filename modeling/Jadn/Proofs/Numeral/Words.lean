import Jadn.Proofs.Numeral
import Mathlib.Algebra.Order.Ring.Int

/-!
Arithmetic in machine words.

A word has so many bits, with or without a sign, and holds the integers between two bounds. Its
operations are those on integers as long as the word holds their results, and a number is shifted
by less than the bits of the word; otherwise they overflow.
-/

set_option autoImplicit false

namespace Jadn.Numeral

structure Word where
  signed : Bool
  bits : Nat

inductive Overflow where
  | conversion
  | negation
  | subtraction
  | shift
  deriving DecidableEq

namespace Word

def i64 : Word := ⟨true, 64⟩

def i128 : Word := ⟨true, 128⟩

def u32 : Word := ⟨false, 32⟩

def u64 : Word := ⟨false, 64⟩

def least (w : Word) : Int := if w.signed then -2 ^ (w.bits - 1) else 0

def greatest (w : Word) : Int := if w.signed then 2 ^ (w.bits - 1) - 1 else 2 ^ w.bits - 1

def Holds (w : Word) (n : Int) : Prop := w.least ≤ n ∧ n ≤ w.greatest

instance (w : Word) (n : Int) : Decidable (w.Holds n) :=
  inferInstanceAs (Decidable (w.least ≤ n ∧ n ≤ w.greatest))

def fit (w : Word) (operation : Overflow) (n : Int) : Except Overflow Int :=
  if w.Holds n then .ok n else .error operation

def convert (w : Word) (n : Int) : Except Overflow Int := w.fit .conversion n

def neg (w : Word) (n : Int) : Except Overflow Int := w.fit .negation (-n)

def sub (w : Word) (m n : Int) : Except Overflow Int := w.fit .subtraction (m - n)

def shiftLeft (w : Word) (n : Int) (distance : Int) : Except Overflow Int :=
  if 0 ≤ distance ∧ distance < w.bits then w.fit .shift (n * 2 ^ distance.toNat)
  else .error .shift

variable {w : Word} {n : Int}

theorem fit_of_holds (operation : Overflow) (held : w.Holds n) : w.fit operation n = .ok n :=
  if_pos held

theorem i64_holds_iff : i64.Holds n ↔ -2 ^ 63 ≤ n ∧ n < 2 ^ 63 := by
  simp only [Holds, least, greatest, i64, if_true]
  omega

theorem i128_holds_iff : i128.Holds n ↔ -2 ^ 127 ≤ n ∧ n < 2 ^ 127 := by
  simp only [Holds, least, greatest, i128, if_true]
  omega

theorem u32_holds_iff : u32.Holds n ↔ 0 ≤ n ∧ n < 2 ^ 32 := by
  simp only [Holds, least, greatest, u32, Bool.false_eq_true, if_false]
  omega

theorem u64_holds_iff : u64.Holds n ↔ 0 ≤ n ∧ n < 2 ^ 64 := by
  simp only [Holds, least, greatest, u64, Bool.false_eq_true, if_false]
  omega

theorem exists_word? (held : i64.Holds n) : ∃ w, word? n = some w := by
  obtain ⟨least, greatest⟩ := i64_holds_iff.mp held
  exact ⟨Int64.ofInt n, word?_eq_some_iff.mpr (Int64.toInt_ofInt_of_le least greatest)⟩

theorem i64_holds_of_word? {v : Int64} (read : word? n = some v) : i64.Holds n := by
  rw [← word?_eq_some_iff.mp read]
  exact i64_holds_iff.mpr ⟨v.le_toInt, v.toInt_lt⟩

theorem word?_eq_none_iff : word? n = none ↔ ¬ i64.Holds n := by
  cases read : word? n with
  | some v => simpa using i64_holds_of_word? read
  | none =>
    refine iff_of_true rfl fun held => ?_
    obtain ⟨v, found⟩ := exists_word? held
    rw [read] at found
    cases found

theorem convert_i128 (held : i64.Holds n ∨ u64.Holds n) : i128.convert n = .ok n := by
  refine fit_of_holds _ (i128_holds_iff.mpr ?_)
  rw [i64_holds_iff, u64_holds_iff] at held
  omega

section Powers

variable {k : Nat} (small : k ≤ 64)
include small

theorem two_pow_bounds : (1 : Int) ≤ 2 ^ k ∧ (2 : Int) ^ k ≤ 2 ^ 64 :=
  ⟨one_le_pow₀ (by decide), pow_le_pow_right₀ (by decide) small⟩

theorem shiftLeft_one : i128.shiftLeft 1 k = .ok (2 ^ k) := by
  have bounds := two_pow_bounds small
  have within : (0 : Int) ≤ k ∧ (k : Int) < i128.bits := by
    simp only [i128]
    omega
  rw [shiftLeft, if_pos within, one_mul, Int.toNat_natCast]
  exact fit_of_holds _ (i128_holds_iff.mpr (by omega))

theorem neg_two_pow : i128.neg (2 ^ k) = .ok (-2 ^ k) := by
  have bounds := two_pow_bounds small
  exact fit_of_holds _ (i128_holds_iff.mpr (by omega))

theorem two_pow_sub_one : i128.sub (2 ^ k) 1 = .ok (2 ^ k - 1) := by
  have bounds := two_pow_bounds small
  exact fit_of_holds _ (i128_holds_iff.mpr (by omega))

end Powers

end Word

end Jadn.Numeral
