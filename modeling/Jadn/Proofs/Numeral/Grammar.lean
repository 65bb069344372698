import Jadn.Proofs.Numeral.Canonical
import Jadn.Proofs.Numeral.Words

/-!
The texts that are read as integers: digits with a sign in front of them or without one, and a
value that fits in 64 bits.
-/

set_option autoImplicit false

namespace Jadn.Numeral

structure Digits (cs : List Char) (n : Nat) : Prop where
  nonempty : cs ≠ []
  digits : ∀ c ∈ cs, c.isDigit
  value : Nat.ofDigitChars 10 cs 0 = n

inductive Signed : List Char → Int → Prop where
  | bare {cs : List Char} {n : Nat} (digits : Digits cs n) : Signed cs n
  | plus {cs : List Char} {n : Nat} (digits : Digits cs n) : Signed ('+' :: cs) n
  | minus {cs : List Char} {n : Nat} (digits : Digits cs n) : Signed ('-' :: cs) (-n)

/-- An integer literal of 64 bits. -/
def IsWord (text : String) : Prop := ∃ n, Signed text.toList n ∧ Word.i64.Holds n

theorem natural?_iff_digits {cs : List Char} {n : Nat} : natural? cs = some n ↔ Digits cs n := by
  rw [natural?_eq_some_iff]
  exact ⟨fun ⟨nonempty, digits, value⟩ => ⟨nonempty, digits, value⟩,
    fun h => ⟨h.nonempty, h.digits, h.value⟩⟩

theorem Digits.signed? {cs : List Char} {n : Nat} (h : Digits cs n) : signed? cs = some (n : Int) := by
  have read := natural?_iff_digits.mpr h
  unfold Numeral.signed?
  split
  · cases h.digits '-' List.mem_cons_self
  · cases h.digits '+' List.mem_cons_self
  · rw [read]
    rfl

theorem signed?_eq_some_iff {cs : List Char} {n : Int} : signed? cs = some n ↔ Signed cs n := by
  constructor
  · intro read
    unfold signed? at read
    split at read
    · simp only [pure, Option.bind_eq_bind, Option.map_bind, Option.bind_eq_some_iff] at read
      obtain ⟨m, digits, same⟩ := read
      cases same
      exact .minus (natural?_iff_digits.mp digits)
    · obtain ⟨m, digits, rfl⟩ := Option.map_eq_some_iff.mp read
      exact .plus (natural?_iff_digits.mp digits)
    · obtain ⟨m, digits, rfl⟩ := Option.map_eq_some_iff.mp read
      exact .bare (natural?_iff_digits.mp digits)
  · intro spelled
    cases spelled with
    | bare digits => exact digits.signed?
    | plus digits =>
      rw [signed?, natural?_iff_digits.mpr digits]
      rfl
    | minus digits =>
      rw [signed?, natural?_iff_digits.mpr digits]
      rfl

theorem isSome_word?_iff {n : Int} : (word? n).isSome ↔ Word.i64.Holds n := by
  constructor
  · intro fits
    obtain ⟨w, read⟩ := Option.isSome_iff_exists.mp fits
    rw [← word?_eq_some_iff.mp read, Word.i64_holds_iff]
    exact ⟨w.le_toInt, w.toInt_lt⟩
  · intro held
    obtain ⟨w, read⟩ := Word.exists_word? held
    rw [read]
    rfl

theorem isSome_int64?_iff {text : String} : (int64? text).isSome ↔ IsWord text := by
  rw [int64?, Option.isSome_iff_exists]
  simp only [Option.bind_eq_some_iff, signed?_eq_some_iff]
  constructor
  · rintro ⟨w, n, spelled, read⟩
    exact ⟨n, spelled, isSome_word?_iff.mp (Option.isSome_of_eq_some read)⟩
  · rintro ⟨n, spelled, held⟩
    obtain ⟨w, read⟩ := Word.exists_word? held
    exact ⟨w, n, spelled, read⟩

end Jadn.Numeral
