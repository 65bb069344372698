import Jadn.Json
import Jadn.Numeral

/-!
Number literals of JSON text.

A literal without point and exponent that fits 64 bits is an integer. Any other is a binary64
number: its leading digits that fit 64 unsigned bits, rounded, then scaled by the power of ten
that is left and rounded again.
-/

namespace Jadn.Json

/-- The digits of a literal that are kept, and the power of ten that they are scaled by. -/
structure Scaled where
  significand : Nat
  exponent : Int
  /-- Whether some digit no longer fitted. -/
  overflowed : Bool

namespace Scaled

/-- Digits before the point: those after the first that does not fit only add a power of ten. -/
def pushWhole (s : Scaled) (digit : Nat) : Scaled :=
  if s.overflowed then { s with exponent := s.exponent + 1 }
  else if s.significand * 10 + digit < UInt64.size then
    { s with significand := s.significand * 10 + digit }
  else { s with exponent := s.exponent + 1, overflowed := true }

/-- Digits after the point: those after the first that does not fit are dropped. -/
def pushFraction (s : Scaled) (digit : Nat) : Scaled :=
  if s.overflowed then s
  else if s.significand * 10 + digit < UInt64.size then
    { s with significand := s.significand * 10 + digit, exponent := s.exponent - 1 }
  else { s with overflowed := true }

/-- Multiplication or division by one power of ten, after divisions by `10 ^ 308` for
exponents below `-308`. -/
def scale? (x : Binary64) (exponent : Int) : Option Binary64 :=
  let rescale (x : Binary64) (exponent : Int) : Option Binary64 := do
    let power ← Binary64.ofRatio? false (Nat.pow 10 exponent.natAbs) 1
    if 0 ≤ exponent then x.mul? power else x.div? power
  if x.isZero then some x
  else if 308 < exponent ∨ exponent < -1000 then
    if 0 < exponent then none else some (Binary64.zero false)
  else do
    let mut x := x
    let mut exponent := exponent
    for _ in [0, 1, 2] do
      if exponent < -308 then
        x ← rescale x (-308)
        exponent := exponent + 308
    rescale x exponent

def toBinary64? (s : Scaled) (negative : Bool) : Option Binary64 := do
  let magnitude ← Binary64.ofRatio? false s.significand 1
  let x ← scale? magnitude s.exponent
  Binary64.ofParts? negative x.mantissa x.exponent

end Scaled

/-- An exponent with at least one digit and an optional sign, after its letter. -/
def exponent? : List Char → Option Int
  | e :: cs => if e == 'e' || e == 'E' then Numeral.signed? cs else none
  | [] => none

def unsignedNumber? (negative : Bool) (cs : List Char) : Option Json := do
  let whole := cs.takeWhile Numeral.isDigit
  let rest := cs.dropWhile Numeral.isDigit
  if whole.isEmpty || (whole.head? == some '0' && 1 < whole.length) then none
  else
    let digits := whole.filterMap Numeral.digit?
    let kept := digits.foldl Scaled.pushWhole ⟨0, 0, false⟩
    match rest with
    | [] =>
      let n : Int := if negative then -(kept.significand : Int) else kept.significand
      if !kept.overflowed && Int64.minValue.toInt ≤ n && !(negative && n == 0) then some (.int n)
      else (kept.toBinary64? negative).map .real
    | '.' :: tail =>
      let fraction := tail.takeWhile Numeral.isDigit
      let rest := tail.dropWhile Numeral.isDigit
      if fraction.isEmpty then none
      else
        let kept := { kept with overflowed := false }
        let kept := (fraction.filterMap Numeral.digit?).foldl Scaled.pushFraction kept
        let shift ← if rest.isEmpty then some 0 else exponent? rest
        ({ kept with exponent := kept.exponent + shift }.toBinary64? negative).map .real
    | rest =>
      let shift ← exponent? rest
      ({ kept with exponent := kept.exponent + shift }.toBinary64? negative).map .real

/-- The number that a literal denotes; none when it is malformed or too large. -/
def number (literal : List Char) : Option Json :=
  match literal with
  | '-' :: cs => unsignedNumber? true cs
  | cs => unsignedNumber? false cs

end Jadn.Json
