/-!
Finite binary64 numbers, held exactly as a sign, a mantissa and a power of two.

Every number has one form, so equal fields mean the same bits; the comparison `==` is by
value and does not tell the two zeros apart. `ofRatio?` rounds a quotient to the nearest
number, ties to the even mantissa, and fails above the largest finite one.
-/

namespace Jadn

/-- The least mantissa of 53 bits. -/
def Binary64.leastFull : Nat := 0x10000000000000

/-- Subnormals share the least exponent; every other mantissa uses all 53 bits. -/
def Binary64.Canonical (mantissa : Nat) (exponent : Int) : Prop :=
  mantissa < 2 * leastFull ∧ -1074 ≤ exponent ∧ exponent ≤ 971 ∧
    (exponent = -1074 ∨ leastFull ≤ mantissa)

instance (mantissa : Nat) (exponent : Int) :
    Decidable (Binary64.Canonical mantissa exponent) := by
  unfold Binary64.Canonical
  infer_instance

/-- The number `± mantissa * 2 ^ exponent`. -/
structure Binary64 where
  negative : Bool
  mantissa : Nat
  exponent : Int
  canonical : Binary64.Canonical mantissa exponent
  deriving DecidableEq

namespace Binary64

def zero (negative : Bool) : Binary64 :=
  ⟨negative, 0, -1074, by decide⟩

instance : Inhabited Binary64 := ⟨zero false⟩

def ofParts? (negative : Bool) (mantissa : Nat) (exponent : Int) : Option Binary64 :=
  if h : Canonical mantissa exponent then some ⟨negative, mantissa, exponent, h⟩ else none

/-- The magnitude as an exact quotient of naturals. -/
def ratio (x : Binary64) : Nat × Nat :=
  (x.mantissa * Nat.pow 2 x.exponent.toNat, Nat.pow 2 (-x.exponent).toNat)

def isZero (x : Binary64) : Bool := x.mantissa == 0

/-- The signed value in units of `2 ^ unit`, exact when `unit` is no larger than the exponent. -/
def inUnits (x : Binary64) (unit : Int) : Int :=
  let magnitude : Nat := x.mantissa * Nat.pow 2 (x.exponent - unit).toNat
  if x.negative then -magnitude else magnitude

def lt (x y : Binary64) : Bool :=
  let unit := min x.exponent y.exponent
  x.inUnits unit < y.inUnits unit

instance : BEq Binary64 where
  beq x y :=
    (x.isZero && y.isZero) ||
      (x.negative == y.negative && x.mantissa == y.mantissa && x.exponent == y.exponent)

/-- The natural nearest to `num / den`, ties to even. -/
def roundHalfEven (num den : Nat) : Nat :=
  let quotient := num / den
  let rest := num % den
  if 2 * rest < den || (2 * rest == den && quotient % 2 == 0) then quotient else quotient + 1

/-- The exponent of the leading bit of `num / den`, for positive arguments. -/
def leadingBit (num den : Nat) : Int :=
  let guess : Int := (num.log2 : Int) - den.log2
  if den * Nat.pow 2 guess.toNat ≤ num * Nat.pow 2 (-guess).toNat then guess else guess - 1

/-- The binary64 number nearest to `± num / den`; none when it is too large. -/
def ofRatio? (negative : Bool) (num den : Nat) : Option Binary64 :=
  if num = 0 then some (zero negative)
  else
    let exponent := max (leadingBit num den - 52) (-1074)
    let mantissa :=
      roundHalfEven (num * Nat.pow 2 (-exponent).toNat) (den * Nat.pow 2 exponent.toNat)
    if mantissa = 2 * leastFull then ofParts? negative leastFull (exponent + 1)
    else ofParts? negative mantissa exponent

def ofInt? (n : Int) : Option Binary64 :=
  ofRatio? (n < 0) n.natAbs 1

def mul? (x y : Binary64) : Option Binary64 :=
  let (a, b) := x.ratio
  let (c, d) := y.ratio
  ofRatio? (x.negative != y.negative) (a * c) (b * d)

/-- The quotient by a non-zero number. -/
def div? (x y : Binary64) : Option Binary64 :=
  let (a, b) := x.ratio
  let (c, d) := y.ratio
  ofRatio? (x.negative != y.negative) (a * d) (b * c)

/-- The number nearest to `± digits * 10 ^ exponent`.

Exponents that put the value beyond every finite number, or below half the least positive
one, are answered without computing the power. -/
def ofDecimal? (negative : Bool) (digits : Nat) (exponent : Int) : Option Binary64 :=
  if digits = 0 then some (zero negative)
  else
    let magnitude := exponent + (Nat.log2 digits : Int) / 4
    if magnitude > 400 then none
    else if exponent + (Nat.log2 digits : Int) < -400 then some (zero negative)
    else ofRatio? negative (digits * Nat.pow 10 exponent.toNat) (Nat.pow 10 (-exponent).toNat)

end Binary64

end Jadn
