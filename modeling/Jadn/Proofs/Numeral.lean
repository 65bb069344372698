import Jadn.Numeral

/-!
Decimal numerals read back: the text of an integer is a numeral of that integer, and the text
of a 64-bit word is a numeral of that word.
-/

set_option autoImplicit false

namespace Jadn.Numeral

theorem digit?_eq_some {c : Char} (h : c.isDigit) : digit? c = some (c.toNat - '0'.toNat) := by
  obtain ⟨low, high⟩ := Char.isDigit_iff_toNat.mp h
  have bounds : '0' ≤ c ∧ c ≤ '9' := ⟨low, high⟩
  rw [digit?, if_pos bounds]

/-- A run of digits has the value that its digits give from left to right. -/
theorem foldlM_digits {cs : List Char} (h : ∀ c ∈ cs, c.isDigit) (start : Nat) :
    cs.foldlM (fun n c => (digit? c).map (10 * n + ·)) start =
      some (Nat.ofDigitChars 10 cs start) := by
  induction cs generalizing start with
  | nil => simp
  | cons c cs ih =>
    rw [List.foldlM_cons, digit?_eq_some (h c (by simp)), Nat.ofDigitChars_cons]
    exact ih (fun d hd => h d (by simp [hd])) _

theorem natural?_toDigits (n : Nat) : natural? (Nat.toDigits 10 n) = some n := by
  have digits : ∀ c ∈ Nat.toDigits 10 n, c.isDigit := fun c hc =>
    Nat.isDigit_of_mem_toDigits (by decide) (by decide) hc
  have nonempty : (Nat.toDigits 10 n).isEmpty = false := by simp
  rw [natural?, nonempty, value?, foldlM_digits digits, Nat.ofDigitChars_ten_toDigits]
  rfl

theorem signed?_toDigits (n : Nat) : signed? (Nat.toDigits 10 n) = some (n : Int) := by
  have digits : ∀ c ∈ Nat.toDigits 10 n, c.isDigit := fun c hc =>
    Nat.isDigit_of_mem_toDigits (by decide) (by decide) hc
  have value := natural?_toDigits n
  generalize Nat.toDigits 10 n = cs at digits value
  cases cs with
  | nil => simp [natural?] at value
  | cons c cs =>
    have first := digits c (by simp)
    unfold signed?
    split
    · next h => simp_all [Char.isDigit]
    · next h => simp_all [Char.isDigit]
    · simp [value]

theorem signed?_toString (n : Int) : signed? (toString n).toList = some n := by
  rw [Int.toString_eq_repr, Int.repr_eq_if]
  split
  · next h =>
    rw [Nat.toList_repr, signed?_toDigits, Int.toNat_of_nonneg h]
  · next h =>
    have text : ("-" ++ (-n).toNat.repr).toList = '-' :: Nat.toDigits 10 (-n).toNat := by simp
    have value : -((-n).toNat : Int) = n := by omega
    rw [text, signed?, natural?_toDigits]
    exact congrArg some value

theorem word?_toInt (n : Int64) : word? n.toInt = some n := by
  have bounds : Int64.minValue.toInt ≤ n.toInt ∧ n.toInt ≤ Int64.maxValue.toInt :=
    ⟨Int64.minValue_le_toInt n, Int64.toInt_le n⟩
  rw [word?, if_pos bounds, Int64.ofInt_toInt]

theorem word?_eq_some_iff {n : Int} {w : Int64} : word? n = some w ↔ w.toInt = n := by
  constructor
  · intro read
    unfold word? at read
    split at read
    · next fits =>
      cases read
      exact Int64.toInt_ofInt_of_le fits.1 (Int.lt_add_one_of_le fits.2)
    · cases read
  · rintro rfl
    exact word?_toInt w

theorem int64?_toString_eq (n : Int) : int64? (toString n) = word? n := by
  rw [int64?, signed?_toString, Option.bind_some]

theorem int64?_toString (n : Int64) : int64? (toString n.toInt) = some n := by
  rw [int64?_toString_eq, word?_toInt]

end Jadn.Numeral
