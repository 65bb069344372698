import Jadn.Proofs.Expansion.Forms
import Jadn.Proofs.Format.Integer
import Jadn.Proofs.Json.Number

/-!
Which integers an integer type accepts.

A value is accepted exactly if it is an integer of 64 bits, signed or unsigned, that lies within
the bounds of its type and within the range of its format. The words that the check is computed
in are wide enough for every such integer, every bound and every format, so that no operation on
them overflows.
-/

set_option autoImplicit false

namespace Jadn

namespace Validation

variable {d : TypeDefinition} {v : Json} {n : Int}

/-- What an integer type asks of an integer. A greatest value of zero is none. -/
structure AdmitsInteger (d : TypeDefinition) (n : Int) : Prop where
  fits : -2 ^ 63 ≤ n ∧ n < 2 ^ 64
  atLeast : ∀ least, d.options.minv = some least → least.toInt ≤ n
  atMost : ∀ most, d.options.maxv = some most → most ≠ 0 → n ≤ most.toInt
  inRange : ∀ format, d.options.format = some format →
    ∃ least greatest, Format.Sized format least greatest ∧ least ≤ n ∧ n ≤ greatest

theorem integer?_eq_some_iff : v.integer? = some n ↔ v = .int n ∧ -2 ^ 63 ≤ n ∧ n < 2 ^ 64 := by
  have least : Int64.minValue.toInt = -2 ^ 63 := rfl
  have size : (UInt64.size : Int) = 2 ^ 64 := rfl
  cases v with
  | int m =>
    simp only [Json.integer?, least, size, Option.ite_none_right_eq_some, Option.some.injEq,
      Json.int.injEq]
    constructor
    · rintro ⟨fits, rfl⟩
      exact ⟨rfl, fits⟩
    · rintro ⟨rfl, fits⟩
      exact ⟨fits, rfl⟩
  | _ => simp [Json.integer?]

section Steps

theorem checkInteger_of_none (none : v.integer? = none) :
    checkInteger d v = .error (notOfForm d "an integer" v) := by
  rw [checkInteger, none]

theorem checkInteger_of_some (some : v.integer? = some n) : checkInteger d v = (do
    checkRange d n
    checkLeast d n
    checkGreatest d n) := by
  rw [checkInteger, some]

theorem checkRange_eq_ok_iff : checkRange d n = .ok () ↔
    ∀ format, d.options.format = some format →
      ∃ least greatest, Format.Sized format least greatest ∧ least ≤ n ∧ n ≤ greatest := by
  unfold checkRange
  cases d.options.format with
  | none => simp
  | some format =>
    simp only [ofType, Except.mapError_eq_ok_iff, Format.checkInteger_eq_ok_iff,
      Option.some.injEq, forall_eq']

theorem checkLeast_eq_ok_iff : checkLeast d n = .ok () ↔
    ∀ least, d.options.minv = some least → least.toInt ≤ n := by
  unfold checkLeast
  cases d.options.minv with
  | none => simp
  | some least => simp

theorem checkGreatest_eq_ok_iff : checkGreatest d n = .ok () ↔
    ∀ most, d.options.maxv = some most → most ≠ 0 → n ≤ most.toInt := by
  unfold checkGreatest
  cases d.options.maxv with
  | none => simp
  | some most => by_cases zero : most = 0 <;> simp [Option.filter_some, zero]

end Steps

section InWords

open Numeral

/-- A check that is computed in words, and may overflow besides. -/
abbrev InWords := ExceptT ValidationError (Except Overflow)

/-- The integer of a value, if it fits 64 bits with or without a sign, in a word of 128 bits. -/
def integerInWords (v : Json) : Except Overflow (Option Int) :=
  match v with
  | .int n =>
    if Word.i64.Holds n ∨ Word.u64.Holds n then some <$> Word.i128.convert n else .ok none
  | _ => .ok none

def rangeInWords (d : TypeDefinition) (n : Int) : InWords Unit :=
  match d.options.format with
  | some format => .mk ((Format.rangeInWords format).map fun range =>
      ofType d (Format.checkWithin format n range))
  | none => pure ()

def leastInWords (d : TypeDefinition) (n : Int) : InWords Unit :=
  match d.options.minv with
  | some least => do
    if n < (← Word.i128.convert least.toInt) then
      throw (contrast d .belowMinimum s!">= {least.toInt}" (toString n))
  | none => pure ()

def greatestInWords (d : TypeDefinition) (n : Int) : InWords Unit :=
  match d.options.maxv.filter (· ≠ 0) with
  | some most => do
    if (← Word.i128.convert most.toInt) < n then
      throw (contrast d .aboveMaximum s!"<= {most.toInt}" (toString n))
  | none => pure ()

def integerCheckInWords (d : TypeDefinition) (v : Json) : InWords Unit := do
  match ← integerInWords v with
  | some n =>
    rangeInWords d n
    leastInWords d n
    greatestInWords d n
  | none => throw (notOfForm d "an integer" v)

theorem integerInWords_eq (v : Json) : integerInWords v = .ok v.integer? := by
  cases v with
  | int n =>
    have fits : (Json.int n).integer? = if -2 ^ 63 ≤ n ∧ n < 2 ^ 64 then some n else none := rfl
    have either : Word.i64.Holds n ∨ Word.u64.Holds n ↔ -2 ^ 63 ≤ n ∧ n < 2 ^ 64 := by
      rw [Word.i64_holds_iff, Word.u64_holds_iff]
      omega
    by_cases held : Word.i64.Holds n ∨ Word.u64.Holds n
    · rw [integerInWords, if_pos held, Word.convert_i128 held, fits, if_pos (either.mp held)]
      rfl
    · rw [integerInWords, if_neg held, fits, if_neg fun within => held (either.mpr within)]
  | _ => rfl

theorem convert_toInt (n : Int64) :
    (liftM (Word.i128.convert n.toInt) : InWords Int) = pure n.toInt := by
  rw [Word.convert_i128 (.inl (Word.i64_holds_iff.mpr ⟨n.le_toInt, n.toInt_lt⟩))]
  rfl

theorem rangeInWords_eq : (rangeInWords d n).run = .ok (checkRange d n) := by
  unfold rangeInWords checkRange
  cases d.options.format with
  | none => rfl
  | some format =>
    simp only [Format.rangeInWords_eq, Format.checkInteger_eq]
    rfl

theorem leastInWords_eq : (leastInWords d n).run = .ok (checkLeast d n) := by
  unfold leastInWords checkLeast
  cases d.options.minv with
  | none => rfl
  | some least =>
    simp only [convert_toInt, pure_bind]
    split <;> rfl

theorem greatestInWords_eq : (greatestInWords d n).run = .ok (checkGreatest d n) := by
  unfold greatestInWords checkGreatest
  cases d.options.maxv.filter (· ≠ 0) with
  | none => rfl
  | some most =>
    simp only [convert_toInt, pure_bind]
    split <;> rfl

/-- No operation overflows, and the check is that on unbounded integers. -/
theorem integerCheckInWords_eq (d : TypeDefinition) (v : Json) :
    (integerCheckInWords d v).run = .ok (checkInteger d v) := by
  unfold integerCheckInWords
  rw [integerInWords_eq]
  cases read : v.integer? with
  | none =>
    rw [checkInteger_of_none read]
    rfl
  | some n =>
    rw [checkInteger_of_some read]
    change (do rangeInWords d n; leastInWords d n; greatestInWords d n : InWords Unit).run = _
    simp only [ExceptT.run_bind, rangeInWords_eq, leastInWords_eq, greatestInWords_eq]
    cases checkRange d n <;> cases checkLeast d n <;> rfl

end InWords

theorem checkInteger_eq_ok_iff :
    checkInteger d v = .ok () ↔ ∃ n, v = .int n ∧ AdmitsInteger d n := by
  cases read : v.integer? with
  | none =>
    rw [checkInteger_of_none read]
    refine ⟨nofun, fun ⟨n, same, admits⟩ => ?_⟩
    rw [integer?_eq_some_iff.mpr ⟨same, admits.fits⟩] at read
    cases read
  | some n =>
    obtain ⟨rfl, fits⟩ := integer?_eq_some_iff.mp read
    simp only [checkInteger_of_some read, Except.bind_eq_ok_iff, Json.int.injEq, exists_eq_left']
    constructor
    · rintro ⟨⟨⟩, inRange, ⟨⟩, atLeast, atMost⟩
      exact ⟨fits, checkLeast_eq_ok_iff.mp atLeast, checkGreatest_eq_ok_iff.mp atMost,
        checkRange_eq_ok_iff.mp inRange⟩
    · exact fun admits => ⟨(), checkRange_eq_ok_iff.mpr admits.inRange, (),
        checkLeast_eq_ok_iff.mpr admits.atLeast, checkGreatest_eq_ok_iff.mpr admits.atMost⟩

end Validation

namespace Schema

open Validation

variable {d : TypeDefinition}

/-- An integer type accepts the integers within its bounds and the range of its format, and
nothing else, wherever it stands; a literal is accepted exactly if it is the numeral of such an
integer. The computation in words does not overflow, whatever the value and the format. -/
theorem validate_integer (kind : d.kind = .integer) :
    (∀ (s : Schema) (v : Json) (depth : Nat), depth ≤ s.limits.maxDepth →
      (integerCheckInWords d v).run = .ok (s.check d v depth) ∧
        (s.check d v depth = .ok () ↔ ∃ n, v = .int n ∧ AdmitsInteger d n)) ∧
    ∀ (s : Schema) (name : String), s.lookup? name = some d → ∀ v : Json,
      (s.isValid name v = true ↔ ∃ n, v = .int n ∧ AdmitsInteger d n) ∧
        ∀ literal, Json.number literal = some v →
          (s.isValid name v = true ↔ ∃ n : Int, literal = (toString n).toList ∧
            AdmitsInteger d n) := by
  have level : ∀ (s : Schema) (inner : Checker) (v : Json),
      checkLevel s inner d v = checkInteger d v := by
    intro s inner v
    rw [checkLevel, kind]
  refine ⟨fun s v depth within => ?_, fun s name found v => ?_⟩
  · obtain ⟨levels, some⟩ : ∃ levels, s.limits.maxDepth + 1 - depth = levels + 1 :=
      ⟨s.limits.maxDepth - depth, by omega⟩
    have here : s.check d v depth = checkInteger d v := by
      rw [check, some, checkLevels, level]
    rw [here]
    exact ⟨integerCheckInWords_eq d v, checkInteger_eq_ok_iff⟩
  · have accepted : s.isValid name v = true ↔ ∃ n, v = .int n ∧ AdmitsInteger d n := by
      have kept : Expansion.expandLevel s (Expansion.expandLevels s s.limits.maxDepth) d v = v := by
        simp only [Expansion.expandLevel, kind]
      rw [isValid, validate_of_lookup found, kept, isOk_under_iff, level, checkInteger_eq_ok_iff]
    refine ⟨accepted, fun literal read => accepted.trans ?_⟩
    constructor
    · rintro ⟨n, rfl, admits⟩
      exact ⟨n, (Json.number_eq_int_iff.mp read).1, admits⟩
    · rintro ⟨n, rfl, admits⟩
      have integer := Json.number_eq_int_iff.mpr ⟨rfl, admits.fits⟩
      exact ⟨n, Option.some.inj (read.symm.trans integer), admits⟩

def quantity : TypeDefinition where
  name := "Quantity"
  options := { format := some "u64", minv := some 1, maxv := some 0 }
  description := ""
  kind := .integer

def quantities : Schema where
  info := {}
  types := [quantity]
  limits := {}
  extensions := []
  fieldTypes := []
  patterns := []

theorem admitsInteger_quantity_iff {n : Int} : AdmitsInteger quantity n ↔ 1 ≤ n ∧ n < 2 ^ 64 := by
  have word : Format.Sized "u64" 0 (2 ^ 64 - 1) := @Format.Sized.unsigned 64 (by decide) (by decide)
  constructor
  · exact fun admits => ⟨admits.atLeast 1 rfl, admits.fits.2⟩
  · rintro ⟨least, greatest⟩
    refine ⟨by omega, ?_, ?_, ?_⟩
    · rintro _ ⟨⟩
      exact least
    · rintro _ ⟨⟩ nonzero
      exact absurd rfl nonzero
    · rintro _ ⟨⟩
      exact ⟨0, 2 ^ 64 - 1, word, by omega, by omega⟩

/-- The greatest quantity is beyond signed words, and the number after it is no integer. -/
theorem validate_integer_quantity :
    quantity.kind = .integer ∧ quantities.lookup? "Quantity" = some quantity ∧
      Json.number "18446744073709551615".toList = some (.int (2 ^ 64 - 1)) ∧
      quantities.isValid "Quantity" (.int (2 ^ 64 - 1)) = true ∧
      quantities.isValid "Quantity" (.int (2 ^ 64)) = false ∧
      quantities.isValid "Quantity" (.int 0) = false ∧
      (integerCheckInWords quantity (.int (2 ^ 64 - 1))).run = .ok (.ok ()) := by
  have found : quantities.lookup? "Quantity" = some quantity := rfl
  have literal : Json.number "18446744073709551615".toList = some (.int (2 ^ 64 - 1)) :=
    Json.number_eq_int_iff.mpr ⟨by decide +kernel, by decide, by decide⟩
  obtain ⟨inside, named⟩ := validate_integer (d := quantity) rfl
  have greatest : AdmitsInteger quantity (2 ^ 64 - 1) := admitsInteger_quantity_iff.mpr (by decide)
  have refused : ∀ n, ¬ AdmitsInteger quantity n →
      quantities.isValid "Quantity" (.int n) = false := by
    intro n beyond
    rw [Bool.eq_false_iff, ne_eq, (named quantities "Quantity" found (.int n)).1]
    rintro ⟨_, ⟨⟩, admits⟩
    exact beyond admits
  refine ⟨rfl, found, literal, ?_, refused _ ?_, refused _ ?_, ?_⟩
  · exact ((named quantities "Quantity" found _).2 _ literal).mpr
      ⟨2 ^ 64 - 1, by decide +kernel, greatest⟩
  · rw [admitsInteger_quantity_iff]
    decide
  · rw [admitsInteger_quantity_iff]
    decide
  · obtain ⟨computed, accepted⟩ := inside quantities (.int (2 ^ 64 - 1)) 0 (Nat.zero_le _)
    rw [computed, accepted.mpr ⟨_, rfl, greatest⟩]

end Schema

end Jadn
