import Jadn.Json.Number
import Jadn.Proofs.Binary64.Text
import Jadn.Proofs.Numeral.Canonical
import Mathlib.Data.List.TakeWhile

/-!
Integers in JSON text.

A literal is read as an integer exactly if it is the numeral of one that fits 64 bits, signed or
unsigned. Other literals without point and exponent, a negative zero among them, are reals.
-/

set_option autoImplicit false

namespace Jadn.Json

namespace Scaled

theorem overflowed_foldl (digits : List Nat) {s : Scaled} (overflowed : s.overflowed = true) :
    (digits.foldl pushWhole s).overflowed = true := by
  induction digits generalizing s with
  | nil => exact overflowed
  | cons d digits ih => exact ih (by simp [pushWhole, overflowed])

theorem le_foldl (digits : List Nat) (start : Nat) :
    start ≤ digits.foldl (fun v d => v * 10 + d) start := by
  induction digits generalizing start with
  | nil => exact Nat.le_refl start
  | cons d digits ih => exact Nat.le_trans (by omega) (ih (start * 10 + d))

/-- Digits are kept as long as their value fits 64 bits. -/
theorem foldl_pushWhole (digits : List Nat) (start : Nat) :
    (digits.foldl (fun v d => v * 10 + d) start < UInt64.size →
      digits.foldl pushWhole ⟨start, 0, false⟩ =
        ⟨digits.foldl (fun v d => v * 10 + d) start, 0, false⟩) ∧
    (UInt64.size ≤ digits.foldl (fun v d => v * 10 + d) start → start < UInt64.size →
      (digits.foldl pushWhole ⟨start, 0, false⟩).overflowed = true) := by
  induction digits generalizing start with
  | nil => exact ⟨fun _ => rfl, fun beyond fits => absurd fits (Nat.not_lt.mpr beyond)⟩
  | cons d digits ih =>
    have later := le_foldl digits (start * 10 + d)
    simp only [List.foldl_cons]
    by_cases fits : start * 10 + d < UInt64.size
    · have pushed : pushWhole ⟨start, 0, false⟩ d = ⟨start * 10 + d, 0, false⟩ := by
        simp [pushWhole, fits]
      rw [pushed]
      exact ⟨(ih _).1, fun beyond _ => (ih _).2 beyond fits⟩
    · have pushed : (pushWhole ⟨start, 0, false⟩ d).overflowed = true := by
        simp [pushWhole, fits]
      exact ⟨fun small => absurd (Nat.lt_of_le_of_lt later small) fits,
        fun _ _ => overflowed_foldl digits pushed⟩

end Scaled

theorem unsignedNumber?_toDigits {negative : Bool} {m : Nat} {n : Int} :
    unsignedNumber? negative (Nat.toDigits 10 m) = some (.int n) ↔
      n = (if negative then -(m : Int) else m) ∧ m < 2 ^ 64 ∧ -2 ^ 63 ≤ n ∧
        (negative = true → n ≠ 0) := by
  have digits : ∀ c ∈ Nat.toDigits 10 m, c.isDigit := fun c hc =>
    Nat.isDigit_of_mem_toDigits (by decide) (by decide) hc
  obtain ⟨taken, left⟩ := Binary64.Literal.takeWhile_isDigit [] digits (by simp)
  rw [List.append_nil] at taken left
  have leading : ((Nat.toDigits 10 m).isEmpty || ((Nat.toDigits 10 m).head? == some '0' &&
      decide (1 < (Nat.toDigits 10 m).length))) = false := by
    rcases Nat.eq_zero_or_pos m with rfl | positive
    · rfl
    · simp [Numeral.head?_toDigits positive]
  have value := Numeral.foldl_filterMap_digit? digits 0
  rw [Nat.ofDigitChars_ten_toDigits] at value
  obtain ⟨fits, beyond⟩ := Scaled.foldl_pushWhole ((Nat.toDigits 10 m).filterMap Numeral.digit?) 0
  rw [value] at fits beyond
  have least : Int64.minValue.toInt = -2 ^ 63 := rfl
  simp only [unsignedNumber?, taken, left, leading, least, Bool.false_eq_true, if_false]
  by_cases small : m < UInt64.size
  · have bound : m < 2 ^ 64 := small
    rw [fits small]
    simp only [Bool.not_false, Bool.true_and, Bool.and_eq_true, decide_eq_true_eq,
      Bool.not_eq_true', Bool.and_eq_false_imp, beq_eq_false_iff_ne, bound, true_and]
    generalize (if negative = true then -(m : Int) else m) = k
    split
    · next kept =>
      rw [Option.some.injEq, Json.int.injEq]
      exact ⟨by rintro rfl; exact ⟨rfl, kept⟩, fun h => h.1.symm⟩
    · next other =>
      refine ⟨fun read => ?_, fun ⟨value, kept⟩ => absurd (value ▸ kept) other⟩
      simp at read
  · refine ⟨fun read => ?_, fun ⟨_, bound, _⟩ => absurd bound small⟩
    simp [beyond (Nat.le_of_not_lt small) (by decide)] at read

theorem exists_toDigits_of_unsignedNumber? {negative : Bool} {cs : List Char} {n : Int}
    (read : unsignedNumber? negative cs = some (.int n)) : ∃ m, cs = Nat.toDigits 10 m := by
  unfold unsignedNumber? at read
  dsimp only at read
  split at read
  · cases read
  · next shape =>
    split at read
    · next rest =>
      have whole : cs.takeWhile Numeral.isDigit = cs := by
        conv_rhs => rw [← List.takeWhile_append_dropWhile (p := Numeral.isDigit) (l := cs), rest,
          List.append_nil]
      rw [whole] at shape
      have digits : ∀ c ∈ cs, c.isDigit := by
        intro c hc
        rw [← Numeral.isDigit_eq]
        exact List.takeWhile_eq_self_iff.mp whole c hc
      refine ⟨_, (Numeral.toDigits_ofDigitChars ?_ digits fun zero => ?_).symm⟩
      · rintro rfl
        simp at shape
      · match cs, zero with
        | [c], zero => exact congrArg ([·]) (Option.some.inj zero)
        | c :: _ :: _, zero =>
          simp only [List.head?_cons, Option.some.injEq] at zero
          simp [zero] at shape
    · split at read
      · cases read
      · split at read
        all_goals
          obtain ⟨_, -, real⟩ := Option.bind_eq_some_iff.mp read
          simp at real
    · obtain ⟨_, -, real⟩ := Option.bind_eq_some_iff.mp read
      simp at real

/-- A literal is read as an integer exactly if it is its numeral and it fits 64 bits. -/
theorem number_eq_int_iff {literal : List Char} {n : Int} :
    number literal = some (.int n) ↔
      literal = (toString n).toList ∧ -2 ^ 63 ≤ n ∧ n < 2 ^ 64 := by
  have text : (toString n).toList =
      if 0 ≤ n then Nat.toDigits 10 n.toNat else '-' :: Nat.toDigits 10 (-n).toNat := by
    rw [Int.toString_eq_repr, Int.repr_eq_if]
    split <;> simp
  constructor
  · intro read
    unfold number at read
    split at read
    · next cs =>
      obtain ⟨m, rfl⟩ := exists_toDigits_of_unsignedNumber? read
      obtain ⟨rfl, bound, least, nonzero⟩ := unsignedNumber?_toDigits.mp read
      have negative : ¬ 0 ≤ -(m : Int) := by
        have := nonzero rfl
        simp only [if_true] at this
        omega
      rw [text]
      simp only [if_true] at least ⊢
      rw [if_neg negative, neg_neg, Int.toNat_natCast]
      exact ⟨rfl, least, by omega⟩
    · next unsigned =>
      obtain ⟨m, rfl⟩ := exists_toDigits_of_unsignedNumber? read
      obtain ⟨rfl, bound, least, -⟩ := unsignedNumber?_toDigits.mp read
      rw [text]
      simp only [Bool.false_eq_true, if_false, Int.natCast_nonneg, if_true, Int.toNat_natCast,
        true_and]
      omega
  · rintro ⟨rfl, least, greatest⟩
    rw [text]
    split
    · next nonneg =>
      have unsigned : ∀ cs, Nat.toDigits 10 n.toNat ≠ '-' :: cs := by
        intro cs same
        have sign : '-' ∈ Nat.toDigits 10 n.toNat := same ▸ List.mem_cons_self
        have := Nat.isDigit_of_mem_toDigits (by decide) (by decide) sign
        cases this
      unfold number
      split
      · next cs same => exact absurd same (unsigned cs)
      · rw [unsignedNumber?_toDigits]
        simp only [Bool.false_eq_true, if_false, false_implies, and_true]
        omega
    · next negative =>
      simp only [number, unsignedNumber?_toDigits, if_true, true_implies]
      omega

end Jadn.Json
