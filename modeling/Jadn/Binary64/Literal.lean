import Jadn.Binary64
import Jadn.Numeral

/-!
Reading binary64 numbers from decimal text.

`real?` reads the literals of options and numeric keys: digits with an optional point and
exponent, rounded once to the nearest number. Words for infinities and for the absence of a
number denote nothing finite and are refused with everything else.
-/

namespace Jadn.Binary64

/-- The parts of an unsigned literal: digits before and after the point, and the exponent. -/
structure Literal where
  whole : List Char
  fraction : List Char
  exponent : Int

namespace Literal

/-- Digits, an optional point and an optional exponent; one digit suffices on either side. -/
def ofList? (cs : List Char) : Option Literal := do
  let whole := cs.takeWhile Numeral.isDigit
  let rest := cs.dropWhile Numeral.isDigit
  let (fraction, rest) := match rest with
    | '.' :: tail => (tail.takeWhile Numeral.isDigit, tail.dropWhile Numeral.isDigit)
    | _ => ([], rest)
  if whole.isEmpty && fraction.isEmpty then none
  else match rest with
    | [] => some ⟨whole, fraction, 0⟩
    | e :: tail =>
      if e == 'e' || e == 'E' then (Numeral.signed? tail).map (⟨whole, fraction, ·⟩) else none

def toBinary64? (negative : Bool) (l : Literal) : Option Binary64 := do
  let digits ← Numeral.value? Numeral.digit? 10 (l.whole ++ l.fraction)
  ofDecimal? negative digits (l.exponent - l.fraction.length)

end Literal

/-- The finite number that a text denotes, rounded once. -/
def real? (text : String) : Option Binary64 :=
  let (negative, magnitude) := match text.toList with
    | '-' :: cs => (true, cs)
    | '+' :: cs => (false, cs)
    | cs => (false, cs)
  (Literal.ofList? magnitude).bind (Literal.toBinary64? negative)

end Jadn.Binary64
