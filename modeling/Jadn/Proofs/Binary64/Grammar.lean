import Jadn.Proofs.Binary64.Range
import Jadn.Proofs.Binary64.Text
import Jadn.Proofs.Numeral.Grammar
import Mathlib.Data.List.TakeWhile

/-!
The texts that are read as numbers: digits with an optional point among, before or after them, an
optional exponent, and an optional sign in front, of a value below the limit.
-/

set_option autoImplicit false

namespace Jadn.Binary64

inductive Pointed (whole : List Char) : List Char → List Char → Prop where
  | bare : Pointed whole [] whole
  | point (fraction : List Char) : Pointed whole fraction (whole ++ '.' :: fraction)

/-- An exponent of ten, zero where it is left out. -/
inductive Scaled : List Char → Int → Prop where
  | bare : Scaled [] 0
  | exponent {e : Char} {cs : List Char} {n : Int} (mark : e = 'e' ∨ e = 'E')
      (signed : Numeral.Signed cs n) : Scaled (e :: cs) n

namespace Literal

/-- An unsigned literal with its parts, of which those before and after the point are digits, not
both of them empty. -/
structure WrittenAs (l : Literal) (cs : List Char) : Prop where
  digits : ∀ c ∈ l.whole ++ l.fraction, c.isDigit
  nonempty : l.whole ++ l.fraction ≠ []
  text : ∃ mantissa exponent, cs = mantissa ++ exponent ∧
    Pointed l.whole l.fraction mantissa ∧ Scaled exponent l.exponent

def value (l : Literal) : ℚ :=
  Nat.ofDigitChars 10 (l.whole ++ l.fraction) 0 * 10 ^ (l.exponent - l.fraction.length)

end Literal

/-- A literal, with or without a sign, of a value that is rounded to a number. -/
def IsFinite (text : String) : Prop :=
  ∃ cs l, (text.toList = cs ∨ text.toList = '+' :: cs ∨ text.toList = '-' :: cs) ∧
    Literal.WrittenAs l cs ∧ l.value < limit

namespace Literal

variable {whole fraction rest : List Char} {exponent : Int}

def exponent? (rest : List Char) : Option Int :=
  match rest with
  | [] => some 0
  | e :: tail => if e == 'e' || e == 'E' then Numeral.signed? tail else none

theorem exponent?_eq_some_iff : exponent? rest = some exponent ↔ Scaled rest exponent := by
  cases rest with
  | nil =>
    constructor
    · intro read
      cases read
      exact .bare
    · intro scaled
      cases scaled
      rfl
  | cons e tail =>
    simp only [exponent?, Bool.or_eq_true, beq_iff_eq]
    constructor
    · intro read
      obtain ⟨mark, read⟩ := Option.ite_none_right_eq_some.mp read
      exact .exponent mark (Numeral.signed?_eq_some_iff.mp read)
    · intro scaled
      cases scaled with
      | exponent mark signed => rw [if_pos mark, Numeral.signed?_eq_some_iff.mpr signed]

theorem Scaled.head (scaled : Scaled rest exponent) :
    ∀ c ∈ rest.head?, Numeral.isDigit c = false ∧ c ≠ '.' := by
  cases scaled with
  | bare => simp
  | exponent mark _ =>
    rintro c ⟨⟩
    rcases mark with rfl | rfl <;> decide

def afterPoint (rest : List Char) : List Char × List Char :=
  match rest with
  | '.' :: tail => (tail.takeWhile Numeral.isDigit, tail.dropWhile Numeral.isDigit)
  | _ => ([], rest)

theorem ofList?_eq (cs : List Char) : ofList? cs =
    match afterPoint (cs.dropWhile Numeral.isDigit) with
    | (fraction, rest) =>
      if (cs.takeWhile Numeral.isDigit).isEmpty && fraction.isEmpty then none
      else (exponent? rest).map (⟨cs.takeWhile Numeral.isDigit, fraction, ·⟩) := by
  change (match afterPoint (cs.dropWhile Numeral.isDigit) with
    | (fraction, rest) =>
      if (cs.takeWhile Numeral.isDigit).isEmpty && fraction.isEmpty then none
      else match rest with
        | [] => some (Literal.mk (cs.takeWhile Numeral.isDigit) fraction 0)
        | e :: tail =>
          if e == 'e' || e == 'E' then
            (Numeral.signed? tail).map (Literal.mk (cs.takeWhile Numeral.isDigit) fraction)
          else none) = _
  cases afterPoint (cs.dropWhile Numeral.isDigit) with
  | mk fraction rest =>
    cases rest with
    | nil => rfl
    | cons e tail =>
      unfold exponent?
      dsimp only
      split
      · rfl
      · split <;> rfl

theorem afterPoint_of_scaled (scaled : Scaled rest exponent) : afterPoint rest = ([], rest) := by
  unfold afterPoint
  split
  · exact absurd rfl (Scaled.head scaled '.' rfl).2
  · rfl

theorem afterPoint_point (digits : ∀ c ∈ fraction, c.isDigit) (scaled : Scaled rest exponent) :
    afterPoint ('.' :: (fraction ++ rest)) = (fraction, rest) := by
  obtain ⟨taken, left⟩ :=
    takeWhile_isDigit rest digits fun c begins => (Scaled.head scaled c begins).1
  simp only [afterPoint, taken, left]

/-- What is cut off is made up of digits, with a point before those of the fraction. -/
theorem pointed_afterPoint (whole rest : List Char) : ∃ mantissa,
    whole ++ rest = mantissa ++ (afterPoint rest).2 ∧ Pointed whole (afterPoint rest).1 mantissa ∧
      ∀ c ∈ (afterPoint rest).1, Numeral.isDigit c := by
  unfold afterPoint
  split
  · next tail =>
    refine ⟨_, ?_, .point _, fun c => List.mem_takeWhile_imp⟩
    rw [List.append_assoc, List.cons_append, List.takeWhile_append_dropWhile]
  · exact ⟨whole, rfl, .bare, nofun⟩

theorem ofList?_eq_some_iff {cs : List Char} {l : Literal} :
    ofList? cs = some l ↔ l.WrittenAs cs := by
  rw [ofList?_eq]
  dsimp only
  constructor
  · intro read
    obtain ⟨given, read⟩ := Option.ite_none_left_eq_some.mp read
    obtain ⟨exponent, scaled, rfl⟩ := Option.map_eq_some_iff.mp read
    obtain ⟨mantissa, cut, pointed, digits⟩ :=
      pointed_afterPoint (cs.takeWhile Numeral.isDigit) (cs.dropWhile Numeral.isDigit)
    rw [List.takeWhile_append_dropWhile] at cut
    refine ⟨fun c member => ?_, by simpa using given,
      ⟨mantissa, _, cut, pointed, exponent?_eq_some_iff.mp scaled⟩⟩
    rw [← Numeral.isDigit_eq]
    rcases List.mem_append.mp member with before | after
    · exact List.mem_takeWhile_imp before
    · exact digits c after
  · rintro ⟨digits, nonempty, mantissa, rest, rfl, pointed, scaled⟩
    obtain ⟨whole, fraction, exponent⟩ := l
    obtain ⟨before, after⟩ := List.forall_mem_append.mp digits
    have parts : ((mantissa ++ rest).takeWhile Numeral.isDigit = whole) ∧
        afterPoint ((mantissa ++ rest).dropWhile Numeral.isDigit) = (fraction, rest) := by
      cases pointed with
      | bare =>
        obtain ⟨taken, left⟩ :=
          takeWhile_isDigit rest before fun c begins => (Scaled.head scaled c begins).1
        rw [left]
        exact ⟨taken, afterPoint_of_scaled scaled⟩
      | point =>
        rw [List.append_assoc, List.cons_append]
        obtain ⟨taken, left⟩ := takeWhile_isDigit ('.' :: (fraction ++ rest)) before (by
          rintro c ⟨⟩
          decide)
        rw [left]
        exact ⟨taken, afterPoint_point after scaled⟩
    rw [parts.1, parts.2, exponent?_eq_some_iff.mpr scaled, if_neg (by simpa using nonempty)]
    rfl

theorem isSome_toBinary64?_iff (negative : Bool) {l : Literal}
    (digits : ∀ c ∈ l.whole ++ l.fraction, c.isDigit) :
    (toBinary64? negative l).isSome ↔ l.value < limit := by
  have read : Numeral.value? Numeral.digit? 10 (l.whole ++ l.fraction) =
      some (Nat.ofDigitChars 10 (l.whole ++ l.fraction) 0) := Numeral.foldlM_digits digits 0
  rw [value, ← isSome_ofDecimal?_iff negative, toBinary64?, read]
  rfl

end Literal

theorem isSome_unsigned?_iff (negative : Bool) {cs : List Char} :
    (unsigned? negative cs).isSome ↔ ∃ l, Literal.WrittenAs l cs ∧ l.value < limit := by
  simp only [unsigned?, Option.isSome_iff_exists, Option.bind_eq_some_iff,
    Literal.ofList?_eq_some_iff]
  constructor
  · rintro ⟨x, l, written, read⟩
    exact ⟨l, written, (Literal.isSome_toBinary64?_iff negative written.digits).mp
      (Option.isSome_of_eq_some read)⟩
  · rintro ⟨l, written, below⟩
    obtain ⟨x, read⟩ := Option.isSome_iff_exists.mp
      ((Literal.isSome_toBinary64?_iff negative written.digits).mpr below)
    exact ⟨x, l, written, read⟩

theorem Literal.WrittenAs.head {l : Literal} {cs : List Char} (written : l.WrittenAs cs) :
    ∀ c ∈ cs.head?, c ≠ '+' ∧ c ≠ '-' := by
  have unsigned : ∀ c : Char, c.isDigit = true ∨ c = '.' → c ≠ '+' ∧ c ≠ '-' := by
    rintro c (digit | rfl)
    · constructor
      · rintro rfl
        cases digit
      · rintro rfl
        cases digit
    · decide
  obtain ⟨whole, fraction, exponent⟩ := l
  obtain ⟨digits, nonempty, mantissa, rest, rfl, pointed, -⟩ := written
  intro c begins
  apply unsigned
  cases whole with
  | nil =>
    cases pointed with
    | bare => exact absurd rfl nonempty
    | point =>
      cases begins
      exact .inr rfl
  | cons d ds =>
    have first : c = d := by
      cases pointed <;> exact (Option.some.inj begins).symm
    exact .inl (digits c (first ▸ List.mem_cons_self))

theorem isSome_real?_iff {text : String} : (real? text).isSome ↔ IsFinite text := by
  unfold real?
  split
  next negative magnitude signs =>
  change (unsigned? negative magnitude).isSome ↔ _
  rw [isSome_unsigned?_iff]
  -- The sign that is cut off is the only one that an unsigned literal can follow.
  have cut : (text.toList = magnitude ∨ text.toList = '+' :: magnitude ∨
      text.toList = '-' :: magnitude) ∧ ∀ cs, (∀ c ∈ cs.head?, c ≠ '+' ∧ c ≠ '-') →
        (text.toList = cs ∨ text.toList = '+' :: cs ∨ text.toList = '-' :: cs) →
          cs = magnitude := by
    split at signs
    · next rest begins =>
      cases signs
      refine ⟨.inr (.inr begins), fun cs head written => ?_⟩
      rw [begins] at written
      rcases written with rfl | other | same
      · exact absurd rfl (head '-' rfl).2
      · cases other
      · exact (List.cons.inj same).2.symm
    · next rest begins =>
      cases signs
      refine ⟨.inr (.inl begins), fun cs head written => ?_⟩
      rw [begins] at written
      rcases written with rfl | same | other
      · exact absurd rfl (head '+' rfl).1
      · exact (List.cons.inj same).2.symm
      · cases other
    · next minus plus =>
      cases signs
      refine ⟨.inl rfl, fun cs head written => ?_⟩
      rcases written with same | other | other
      · exact same.symm
      · exact absurd other (plus cs)
      · exact absurd other (minus cs)
  constructor
  · rintro ⟨l, written, below⟩
    exact ⟨magnitude, l, cut.1, written, below⟩
  · rintro ⟨cs, l, signed, written, below⟩
    obtain rfl := cut.2 cs written.head signed
    exact ⟨l, written, below⟩

end Jadn.Binary64
