/-!
Numerals in text: runs of ASCII digits read as naturals and integers, and the digits of a
natural written back.

The integer numerals are those of options, keys and network prefixes: one optional sign,
then at least one digit, with no other characters, and a value within 64 signed bits.
-/

namespace Jadn.Numeral

def digit? (c : Char) : Option Nat :=
  if '0' ≤ c ∧ c ≤ '9' then some (c.toNat - '0'.toNat) else none

def isDigit (c : Char) : Bool := (digit? c).isSome

def hexDigit? (c : Char) : Option Nat :=
  if '0' ≤ c ∧ c ≤ '9' then some (c.toNat - '0'.toNat)
  else if 'a' ≤ c ∧ c ≤ 'f' then some (c.toNat - 'a'.toNat + 10)
  else if 'A' ≤ c ∧ c ≤ 'F' then some (c.toNat - 'A'.toNat + 10)
  else none

/-- The digit character of a value below sixteen. -/
def hexChar (n : Nat) : Char :=
  if n < 10 then Char.ofNat ('0'.toNat + n) else Char.ofNat ('a'.toNat + (n - 10))

/-- The value of a digit run, none when some character is no digit. -/
def value? (digit : Char → Option Nat) (radix : Nat) (cs : List Char) : Option Nat :=
  cs.foldlM (fun n c => (digit c).map (radix * n + ·)) 0

/-- A non-empty run of decimal digits. -/
def natural? (cs : List Char) : Option Nat :=
  if cs.isEmpty then none else value? digit? 10 cs

def signed? : List Char → Option Int
  | '-' :: cs => (natural? cs).map fun n => -(n : Int)
  | '+' :: cs => (natural? cs).map Int.ofNat
  | cs => (natural? cs).map Int.ofNat

/-- The word with the given value, none outside 64 signed bits. -/
def word? (n : Int) : Option Int64 :=
  if Int64.minValue.toInt ≤ n ∧ n ≤ Int64.maxValue.toInt then some (Int64.ofInt n) else none

def int64? (text : String) : Option Int64 :=
  (signed? text.toList).bind word?

end Jadn.Numeral
