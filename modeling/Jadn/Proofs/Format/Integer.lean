import Jadn.Format
import Jadn.Proofs.Numeral.Canonical
import Jadn.Proofs.Numeral.Words

/-!
Formats of integers.

A format is a letter for the sign and a width in bits, and every text that is no such format is
unknown. Whatever the text, the range is computed within machine words: the width is read into
32 bits and compared before any number is shifted by it.
-/

set_option autoImplicit false

namespace Jadn.Format

theorem width?_eq_some_iff {digits : List Char} {bits : Nat} :
    width? digits = some bits ↔ 0 < bits ∧ digits = Nat.toDigits 10 bits := by
  unfold width?
  constructor
  · intro read
    split at read
    · cases read
    · next leading =>
      obtain ⟨nonempty, all, rfl⟩ := Numeral.natural?_eq_some_iff.mp read
      have canonical := Numeral.toDigits_ofDigitChars nonempty all (fun zero => absurd zero leading)
      refine ⟨Nat.pos_of_ne_zero fun zero => leading ?_, canonical.symm⟩
      rw [← canonical, zero]
      rfl
  · rintro ⟨positive, rfl⟩
    rw [if_neg (Numeral.head?_toDigits positive), Numeral.natural?_toDigits]

/-- The formats of integers with the bounds of their ranges: signed words of the sizes of
machines, and unsigned words of up to 64 bits. -/
inductive Sized : String → Int → Int → Prop
  | signed {bits : Nat} (size : bits ∈ [8, 16, 32, 64]) :
    Sized ("i" ++ toString bits) (-2 ^ (bits - 1)) (2 ^ (bits - 1) - 1)
  | unsigned {bits : Nat} (positive : 1 ≤ bits) (small : bits ≤ 64) :
    Sized ("u" ++ toString bits) 0 (2 ^ bits - 1)

theorem toList_sized (letter : String) (bits : Nat) :
    (letter ++ toString bits).toList = letter.toList ++ Nat.toDigits 10 bits := by
  rw [String.toList_append, Nat.toString_eq_repr, Nat.toList_repr]

theorem integerRange?_eq_some_iff {format : String} {least greatest : Int} :
    integerRange? format = some (least, greatest) ↔ Sized format least greatest := by
  have text : ∀ (letter : String) (digits : List Char), format.toList = letter.toList ++ digits →
      ∀ bits, width? digits = some bits → 0 < bits ∧ format = letter ++ toString bits := by
    intro letter digits spelled bits read
    obtain ⟨positive, rfl⟩ := width?_eq_some_iff.mp read
    exact ⟨positive, String.toList_inj.mp (spelled.trans (toList_sized letter bits).symm)⟩
  constructor
  · intro known
    unfold integerRange? at known
    split at known
    · next digits spelled =>
      split at known
      · next bits read =>
        obtain ⟨-, rfl⟩ := text "i" digits spelled bits read
        split at known
        · next size =>
          cases known
          exact .signed size
        · cases known
      · cases known
    · next digits spelled =>
      split at known
      · next bits read =>
        obtain ⟨positive, rfl⟩ := text "u" digits spelled bits read
        split at known
        · next small =>
          cases known
          exact .unsigned positive small
        · cases known
      · cases known
    · cases known
  · rintro (@⟨bits, size⟩ | @⟨bits, positive, small⟩)
    · have positive : 0 < bits := by
        simp only [List.mem_cons, List.not_mem_nil, or_false] at size
        omega
      have read := width?_eq_some_iff.mpr ⟨positive, rfl⟩
      simp [integerRange?, read, size]
    · have read := width?_eq_some_iff.mpr ⟨positive, rfl⟩
      simp [integerRange?, read, small]

def checkWithin (format : String) (n : Int) : Option (Int × Int) → Except ValidationError Unit
  | none => .error (unknown format)
  | some (least, greatest) =>
    if least ≤ n ∧ n ≤ greatest then .ok ()
    else
      .error { mismatch format (toString n) with
        reason := some s!"value must be {least} <= x <= {greatest}" }

theorem checkInteger_eq (format : String) (n : Int) :
    checkInteger format n = checkWithin format n (integerRange? format) := by
  unfold checkInteger checkWithin
  cases integerRange? format <;> rfl

theorem checkInteger_eq_ok_iff {format : String} {n : Int} :
    checkInteger format n = .ok () ↔
      ∃ least greatest, Sized format least greatest ∧ least ≤ n ∧ n ≤ greatest := by
  simp only [checkInteger_eq, ← integerRange?_eq_some_iff]
  cases integerRange? format with
  | none => simp [checkWithin]
  | some range =>
    obtain ⟨least, greatest⟩ := range
    by_cases within : least ≤ n ∧ n ≤ greatest <;> simp [checkWithin, within]

section Words

open Numeral

def signedRange (bits : Nat) : Except Overflow (Int × Int) := do
  let half ← Word.i128.shiftLeft 1 (← Word.u32.sub bits 1)
  return (← Word.i128.neg half, ← Word.i128.sub half 1)

def unsignedRange (bits : Nat) : Except Overflow (Int × Int) := do
  return (0, ← Word.i128.sub (← Word.i128.shiftLeft 1 bits) 1)

def rangeOfWidth (known : Nat → Bool) (range : Nat → Except Overflow (Int × Int))
    (digits : List Char) : Except Overflow (Option (Int × Int)) :=
  match (width? digits).filter fun bits : Nat => Word.u32.Holds bits with
  | some bits => if known bits then some <$> range bits else .ok none
  | none => .ok none

/-- The range of a format, computed in words. -/
def rangeInWords (format : String) : Except Overflow (Option (Int × Int)) :=
  match format.toList with
  | 'i' :: digits => rangeOfWidth (· ∈ [8, 16, 32, 64]) signedRange digits
  | 'u' :: digits => rangeOfWidth (· ≤ 64) unsignedRange digits
  | _ => .ok none

theorem signedRange_eq {bits : Nat} (positive : 0 < bits) (small : bits ≤ 64) :
    signedRange bits = .ok (-2 ^ (bits - 1), 2 ^ (bits - 1) - 1) := by
  have less : bits - 1 ≤ 64 := Nat.le_trans (Nat.sub_le bits 1) small
  have distance : Word.u32.sub bits 1 = .ok ((bits - 1 : Nat) : Int) := by
    rw [Int.natCast_sub positive]
    exact Word.fit_of_holds _ (Word.u32_holds_iff.mpr (by omega))
  simp only [signedRange, distance, bind, Except.bind, Word.shiftLeft_one less,
    Word.neg_two_pow less, Word.two_pow_sub_one less]
  rfl

theorem unsignedRange_eq {bits : Nat} (small : bits ≤ 64) :
    unsignedRange bits = .ok (0, 2 ^ bits - 1) := by
  simp only [unsignedRange, bind, Except.bind, Word.shiftLeft_one small,
    Word.two_pow_sub_one small]
  rfl

/-- A width is read beyond 32 bits only to be unknown. -/
theorem rangeOfWidth_eq {known : Nat → Bool} {range : Nat → Except Overflow (Int × Int)}
    {bounds : Nat → Int × Int} (small : ∀ bits, known bits = true → bits ≤ 64)
    (computed : ∀ bits, 0 < bits → bits ≤ 64 → range bits = .ok (bounds bits))
    (digits : List Char) : rangeOfWidth known range digits =
      .ok ((width? digits).bind fun bits => if known bits then some (bounds bits) else none) := by
  unfold rangeOfWidth
  cases read : width? digits with
  | none => rfl
  | some bits =>
    have positive := (width?_eq_some_iff.mp read).1
    cases listed : known bits with
    | true =>
      have held : Word.u32.Holds bits := Word.u32_holds_iff.mpr (by have := small bits listed; omega)
      simp [Option.filter_some, held, listed, computed bits positive (small bits listed)]
    | false => by_cases held : Word.u32.Holds bits <;> simp [Option.filter_some, held, listed]

/-- No format makes the computation of its range overflow: a width is positive, and one that is
too large is unknown before any number is shifted by it. -/
theorem rangeInWords_eq (format : String) : rangeInWords format = .ok (integerRange? format) := by
  have signed : ∀ bits : Nat, decide (bits ∈ [8, 16, 32, 64]) = true → bits ≤ 64 := by
    intro bits listed
    simp only [List.mem_cons, List.not_mem_nil, or_false, decide_eq_true_eq] at listed
    omega
  unfold rangeInWords
  split
  · next digits text =>
    rw [rangeOfWidth_eq signed fun bits => signedRange_eq]
    simp only [integerRange?, text]
    cases width? digits <;> simp
  · next digits text =>
    rw [rangeOfWidth_eq (fun bits => of_decide_eq_true) fun bits _ => unsignedRange_eq]
    simp only [integerRange?, text]
    cases width? digits <;> simp
  · next notSigned notUnsigned =>
    unfold integerRange?
    split
    · next digits text => exact absurd text (notSigned digits)
    · next digits text => exact absurd text (notUnsigned digits)
    · rfl

end Words

end Jadn.Format
