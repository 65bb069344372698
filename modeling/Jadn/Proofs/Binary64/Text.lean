import Jadn.Binary64.Literal
import Jadn.Proofs.Binary64.Decimal
import Jadn.Proofs.Numeral

/-!
The plain text of a number reads back.

Wherever the point is placed among the digits of a decimal, and however many zeros fill either
side, the text is a literal of the value of the decimal.
-/

set_option autoImplicit false

namespace Jadn.Binary64

namespace Literal

variable {whole fraction : List Char}

theorem takeWhile_isDigit {digits : List Char} (rest : List Char) (h : ∀ c ∈ digits, c.isDigit)
    (stop : ∀ c ∈ rest.head?, Numeral.isDigit c = false) :
    (digits ++ rest).takeWhile Numeral.isDigit = digits ∧
      (digits ++ rest).dropWhile Numeral.isDigit = rest := by
  have all : ∀ c ∈ digits, Numeral.isDigit c = true := by
    intro c hc
    rw [Numeral.isDigit, Numeral.digit?_eq_some (h c hc)]
    rfl
  rw [List.takeWhile_append_of_pos all, List.dropWhile_append_of_pos all]
  cases rest with
  | nil => simp
  | cons c cs => simp [stop c rfl]

theorem ofList?_whole (digits : ∀ c ∈ whole, c.isDigit) (some : whole ≠ []) :
    ofList? whole = .some ⟨whole, [], 0⟩ := by
  obtain ⟨taken, left⟩ := takeWhile_isDigit [] digits (by simp)
  rw [List.append_nil] at taken left
  simp [ofList?, taken, left, some]

theorem ofList?_fraction (digits : ∀ c ∈ whole ++ fraction, c.isDigit) (some : whole ≠ []) :
    ofList? (whole ++ '.' :: fraction) = .some ⟨whole, fraction, 0⟩ := by
  obtain ⟨taken, left⟩ := takeWhile_isDigit ('.' :: fraction)
    (fun c hc => digits c (List.mem_append_left _ hc)) (by simp; rfl)
  obtain ⟨taken', left'⟩ := takeWhile_isDigit []
    (fun c hc => digits c (List.mem_append_right _ hc)) (by simp)
  rw [List.append_nil] at taken' left'
  simp [ofList?, taken, left, taken', left', some]

theorem toBinary64?_eq (negative : Bool) (digits : ∀ c ∈ whole ++ fraction, c.isDigit) :
    toBinary64? negative ⟨whole, fraction, 0⟩ =
      ofDecimal? negative (Nat.ofDigitChars 10 (whole ++ fraction) 0) (-fraction.length) := by
  have value : Numeral.value? Numeral.digit? 10 (whole ++ fraction) =
      some (Nat.ofDigitChars 10 (whole ++ fraction) 0) := Numeral.foldlM_digits digits 0
  simp [toBinary64?, value]

end Literal

def unsigned? (negative : Bool) (text : List Char) : Option Binary64 :=
  (Literal.ofList? text).bind (Literal.toBinary64? negative)

section Positional

theorem unsigned?_whole (negative : Bool) {whole : List Char} (digits : ∀ c ∈ whole, c.isDigit)
    (some : whole ≠ []) :
    unsigned? negative whole = ofDecimal? negative (Nat.ofDigitChars 10 whole 0) 0 := by
  have all : ∀ c ∈ whole ++ [], c.isDigit := by simpa using digits
  have value := Literal.toBinary64?_eq negative all
  rw [unsigned?, Literal.ofList?_whole digits some]
  simpa using value

theorem unsigned?_fraction (negative : Bool) {whole fraction : List Char}
    (digits : ∀ c ∈ whole ++ fraction, c.isDigit) (some : whole ≠ []) :
    unsigned? negative (whole ++ '.' :: fraction) =
      ofDecimal? negative (Nat.ofDigitChars 10 (whole ++ fraction) 0) (-fraction.length) := by
  rw [unsigned?, Literal.ofList?_fraction digits some]
  exact Literal.toBinary64?_eq negative digits

theorem isDigit_of_mem_zeros {n : ℕ} {c : Char} (h : c ∈ List.replicate n '0') : c.isDigit := by
  rw [List.eq_of_mem_replicate h]
  rfl

variable {digits : List Char}

def StartsWithDigit (text : List Char) : Prop := ∃ c cs, text = c :: cs ∧ c.isDigit

theorem startsWithDigit_append (isDigit : ∀ c ∈ digits, c.isDigit) (given : digits ≠ [])
    (rest : List Char) : StartsWithDigit (digits ++ rest) := by
  obtain ⟨c, cs, rfl⟩ := List.exists_cons_of_ne_nil given
  exact ⟨c, cs ++ rest, rfl, isDigit c List.mem_cons_self⟩

theorem unsigned?_below (isDigit : ∀ c ∈ digits, c.isDigit) (negative : Bool) (n : ℕ) :
    unsigned? negative ('0' :: '.' :: (List.replicate n '0' ++ digits)) =
      ofDecimal? negative (Nat.ofDigitChars 10 digits 0) (-(n + digits.length : ℕ)) := by
  have zeros : ['0'] ++ (List.replicate n '0' ++ digits) =
      List.replicate (n + 1) '0' ++ digits := by
    rw [List.replicate_succ]
    rfl
  have all : ∀ c ∈ ['0'] ++ (List.replicate n '0' ++ digits), c.isDigit := by
    rw [zeros]
    intro c hc
    exact (List.mem_append.mp hc).elim isDigit_of_mem_zeros (isDigit c)
  have read := unsigned?_fraction negative all (by simp)
  rwa [zeros, Nat.ofDigitChars_append, Nat.ofDigitChars_replicate_zero, Nat.mul_zero,
    List.length_append, List.length_replicate] at read

theorem unsigned?_above (isDigit : ∀ c ∈ digits, c.isDigit) (given : digits ≠ [])
    (negative : Bool) (n : ℕ) :
    unsigned? negative (digits ++ List.replicate n '0') =
      ofDecimal? negative (Nat.ofDigitChars 10 digits 0) n := by
  have all : ∀ c ∈ digits ++ List.replicate n '0', c.isDigit := by
    intro c hc
    exact (List.mem_append.mp hc).elim (isDigit c) isDigit_of_mem_zeros
  rw [unsigned?_whole negative all (by simp [given]), Nat.ofDigitChars_append,
    Nat.ofDigitChars_replicate_zero]
  apply ofDecimal?_congr
  push_cast
  rw [zpow_natCast]
  ring

/-- A decimal with its point placed begins with a digit and reads back. -/
theorem unsigned?_positional (isDigit : ∀ c ∈ digits, c.isDigit) (given : digits ≠ [])
    (negative : Bool) (leading : ℤ) :
    StartsWithDigit (positional digits leading "").toList ∧
      unsigned? negative (positional digits leading "").toList =
        ofDecimal? negative (Nat.ofDigitChars 10 digits 0) (leading + 1 - digits.length) := by
  unfold positional
  split
  · next below =>
    have text : ("0." ++ String.ofList
        (List.replicate (-leading - 1).toNat '0' ++ digits)).toList =
          '0' :: '.' :: (List.replicate (-leading - 1).toNat '0' ++ digits) := by simp
    rw [text]
    refine ⟨⟨'0', _, rfl, rfl⟩, ?_⟩
    rw [unsigned?_below isDigit]
    congr 1
    omega
  · next above =>
    dsimp only
    split
    · next short =>
      rw [String.append_empty, String.toList_ofList]
      refine ⟨startsWithDigit_append isDigit given _, ?_⟩
      rw [unsigned?_above isDigit given]
      congr 1
      omega
    · next long =>
      generalize hn : leading.toNat + 1 = n at long
      rw [String.toList_ofList]
      have first : digits.take n ≠ [] := by
        simp only [ne_eq, List.take_eq_nil_iff, not_or]
        exact ⟨by omega, given⟩
      have parts : ∀ c ∈ digits.take n, c.isDigit := fun c hc =>
        isDigit c (List.mem_of_mem_take hc)
      refine ⟨startsWithDigit_append parts first _, ?_⟩
      rw [unsigned?_fraction negative (by rwa [List.take_append_drop]) first,
        List.take_append_drop]
      congr 1
      rw [List.length_drop]
      omega

end Positional

section Normalized

theorem exists_zeros (reversed : List Char) :
    ∃ n, reversed.reverse =
      (reversed.dropWhile (· == '0')).reverse ++ List.replicate n '0' := by
  induction reversed with
  | nil => exact ⟨0, rfl⟩
  | cons c cs ih =>
    by_cases zero : c = '0'
    · obtain ⟨n, same⟩ := ih
      refine ⟨n + 1, ?_⟩
      simp [zero, same, List.replicate_succ']
    · exact ⟨0, by simp [zero]⟩

/-- A positive decimal has significant digits, and they denote its value. -/
theorem normalize_spec {d : Decimal} (h : d.digits ≠ 0) :
    (∀ c ∈ d.normalize.1, c.isDigit) ∧ d.normalize.1 ≠ [] ∧
      Nat.ofDigitChars 10 d.normalize.1 0 *
        (10 : ℚ) ^ (d.normalize.2 + 1 - d.normalize.1.length) = d.digits * 10 ^ d.exponent := by
  obtain ⟨n, split⟩ := exists_zeros (toString d.digits).toList.reverse
  rw [List.reverse_reverse] at split
  generalize hs : d.normalize.1 = significant
  have own : ((toString d.digits).toList.reverse.dropWhile (· == '0')).reverse = significant := hs
  rw [own] at split
  have digits : (toString d.digits).toList = Nat.toDigits 10 d.digits := by simp
  have leading : d.normalize.2 = d.exponent + (significant.length + n : ℕ) - 1 := by
    have length := congrArg List.length split
    rw [List.length_append, List.length_replicate] at length
    rw [← length]
    rfl
  have value : d.digits = 10 ^ n * Nat.ofDigitChars 10 significant 0 := by
    rw [← Nat.ofDigitChars_replicate_zero, ← Nat.ofDigitChars_append, ← split, digits,
      Nat.ofDigitChars_ten_toDigits]
  refine ⟨?_, ?_, ?_⟩
  · intro c hc
    have listed : c ∈ (toString d.digits).toList := split ▸ List.mem_append_left _ hc
    rw [digits] at listed
    exact Nat.isDigit_of_mem_toDigits (by decide) (by decide) listed
  · rintro rfl
    exact h (by simpa using value)
  · have exponent : d.normalize.2 + 1 - significant.length = d.exponent + n := by
      rw [leading]
      push_cast
      ring
    rw [exponent, value, zpow_add₀ (by norm_num), zpow_natCast]
    push_cast
    ring

end Normalized

theorem real?_neg (text : String) : real? ("-" ++ text) = unsigned? true text.toList := by
  simp [real?, unsigned?]

theorem real?_of_digit {text : String} (h : StartsWithDigit text.toList) :
    real? text = unsigned? false text.toList := by
  obtain ⟨c, cs, begins, digit⟩ := h
  unfold real?
  rw [begins]
  split
  next negative magnitude signs =>
  split at signs
  · next same =>
    cases same
    cases digit
  · next same =>
    cases same
    cases digit
  · cases signs
    rfl

theorem real?_signed (negative : Bool) {text : String} (h : StartsWithDigit text.toList) :
    real? ((if negative then "-" else "") ++ text) = unsigned? negative text.toList := by
  cases negative with
  | true => exact real?_neg text
  | false =>
    rw [if_neg Bool.false_ne_true, String.empty_append]
    exact real?_of_digit h

/-- The plain text of a number reads back. -/
theorem real?_toText (x : Binary64) : real? (x.toText .plain) = some x := by
  unfold toText
  dsimp only
  by_cases h : x.isZero = true
  · rw [if_pos h, String.append_assoc, real?_signed x.negative ⟨'0', [], rfl, rfl⟩]
    have text : ("0" ++ Spelling.plain.wholeSuffix).toList = ['0'] := rfl
    have digits : ∀ c ∈ ("0" ++ Spelling.plain.wholeSuffix).toList, c.isDigit := by
      rw [text]
      simp [Char.isDigit]
    rw [unsigned?_whole x.negative digits (by decide), eq_zero_of_isZero h]
    rfl
  · rw [Bool.not_eq_true] at h
    obtain ⟨isDigit, given, value⟩ := normalize_spec (shortest_digits_ne_zero .up h)
    obtain ⟨starts, reads⟩ :=
      unsigned?_positional isDigit given x.negative (shortest .up x).normalize.2
    rw [if_neg (by simp [h])]
    change real? (_ ++ positional (shortest .up x).normalize.1 (shortest .up x).normalize.2 "") =
      some x
    rw [real?_signed x.negative starts, reads, ofDecimal?_congr x.negative value]
    exact ofDecimal?_shortest .up h

example : (real? "-0.10").map (toText .plain) = some "-0.1" := by decide +kernel

end Jadn.Binary64
