import Jadn.Binary64

/-!
The shortest decimal text that reads back.

For one, two, … seventeen digits the two neighbours of the value on that decimal grid are
tried; the first grid with a neighbour that rounds to the value wins, and of two such
neighbours the nearer. A tie between them is settled by the notation, as are the spellings
of exponents and whole numbers.
-/

namespace Jadn.Binary64

/-- The exponent of the leading decimal digit of `num / den`, for positive arguments. -/
def leadingDigit (num den : Nat) : Int :=
  let guess : Int := leadingBit num den * 30103 / 100000
  if den * Nat.pow 10 (guess + 1).toNat ≤ num * Nat.pow 10 (-(guess + 1)).toNat then guess + 1
  else guess

/-- How a notation settles a value halfway between two shortest decimals. -/
inductive Tie where
  | even
  | up
  deriving DecidableEq

/-- A positive decimal `digits * 10 ^ exponent`. -/
structure Decimal where
  digits : Nat
  exponent : Int
  deriving DecidableEq

def readsBack (x : Binary64) (d : Decimal) : Bool :=
  decide (ofDecimal? x.negative d.digits d.exponent = some x)

/-- The neighbour of the value to write on the grid of the given exponent, if one reads back. -/
def onGrid? (tie : Tie) (x : Binary64) (exponent : Int) : Option Decimal :=
  let (num, den) := x.ratio
  let num := num * Nat.pow 10 (-exponent).toNat
  let den := den * Nat.pow 10 exponent.toNat
  let below : Decimal := ⟨num / den, exponent⟩
  let above : Decimal := ⟨num / den + 1, exponent⟩
  match readsBack x below, readsBack x above with
  | false, false => none
  | true, false => some below
  | false, true => some above
  | true, true =>
    let rest := 2 * (num % den)
    if rest < den then some below
    else if den < rest then some above
    else match tie with
      | .even => if below.digits % 2 = 0 then some below else some above
      | .up => some above

/-- The shortest decimal of a non-zero number.

Seventeen digits always read back; the exact value stands behind the search. -/
def shortest (tie : Tie) (x : Binary64) : Decimal :=
  let (num, den) := x.ratio
  let leading := leadingDigit num den
  let grids : List Int := (List.range 17).map fun (n : Nat) => leading - n
  match grids.findSome? (onGrid? tie x) with
  | some d => d
  | none =>
    ⟨x.mantissa * Nat.pow 2 x.exponent.toNat * Nat.pow 5 (-x.exponent).toNat, min x.exponent 0⟩

/-- The significant digits, without zeros at the end, and the exponent of the first one. -/
def Decimal.normalize (d : Decimal) : List Char × Int :=
  let digits := (toString d.digits).toList
  let significant := (digits.reverse.dropWhile (· == '0')).reverse
  (significant, d.exponent + digits.length - 1)

/-- The digits with a point placed after `whole + 1` of them, zeros filling either side. -/
def positional (digits : List Char) (leading : Int) (wholeSuffix : String) : String :=
  if leading < 0 then
    "0." ++ String.ofList (List.replicate (-leading - 1).toNat '0' ++ digits)
  else
    let whole := leading.toNat + 1
    if digits.length ≤ whole then
      String.ofList (digits ++ List.replicate (whole - digits.length) '0') ++ wholeSuffix
    else String.ofList (digits.take whole ++ '.' :: digits.drop whole)

/-- One digit, the others after a point, and the exponent with its sign. -/
def scientific (digits : List Char) (leading : Int) : String :=
  let mantissa := match digits with
    | first :: second :: rest => first :: '.' :: second :: rest
    | ds => ds
  let exponent := if leading < 0 then toString leading else "+" ++ toString leading
  String.ofList mantissa ++ "e" ++ exponent

/-- The choices that a decimal notation leaves open. -/
structure Spelling where
  tie : Tie
  /-- Written after a whole number. -/
  wholeSuffix : String
  /-- Whether a leading digit of this exponent is written without an exponent. -/
  isPositional : Int → Bool

/-- Numbers in JSON text keep a fraction and have exponents far from the units. -/
def Spelling.json : Spelling :=
  ⟨.even, ".0", fun leading => decide (-5 ≤ leading ∧ leading < 16)⟩

/-- Bounds in option lists and reports have neither exponents nor idle fractions. -/
def Spelling.plain : Spelling :=
  ⟨.up, "", fun _ => true⟩

def toText (n : Spelling) (x : Binary64) : String :=
  let sign := if x.negative then "-" else ""
  if x.isZero then sign ++ "0" ++ n.wholeSuffix
  else
    let (digits, leading) := (shortest n.tie x).normalize
    sign ++
      if n.isPositional leading then positional digits leading n.wholeSuffix
      else scientific digits leading

end Jadn.Binary64
