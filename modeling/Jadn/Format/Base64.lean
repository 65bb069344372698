/-!
Octets as base64 text: four characters for three octets, two or three for the rest.

The decoders are strict. A character outside the alphabet, a length that no octets have, and
bits that no octet takes make a text invalid; padding is required or refused.
-/

namespace Jadn.Format.Base64

/-- The two characters that tell the alphabets apart. -/
structure Alphabet where
  char62 : Char
  char63 : Char
  deriving DecidableEq

def standard : Alphabet := ⟨'+', '/'⟩

def urlSafe : Alphabet := ⟨'-', '_'⟩

def value? (a : Alphabet) (c : Char) : Option Nat :=
  if 'A' ≤ c ∧ c ≤ 'Z' then some (c.toNat - 'A'.toNat)
  else if 'a' ≤ c ∧ c ≤ 'z' then some (c.toNat - 'a'.toNat + 26)
  else if '0' ≤ c ∧ c ≤ '9' then some (c.toNat - '0'.toNat + 52)
  else if c = a.char62 then some 62
  else if c = a.char63 then some 63
  else none

def char (a : Alphabet) (n : Nat) : Char :=
  if n < 26 then Char.ofNat ('A'.toNat + n)
  else if n < 52 then Char.ofNat ('a'.toNat + (n - 26))
  else if n < 62 then Char.ofNat ('0'.toNat + (n - 52))
  else if n = 62 then a.char62
  else a.char63

/-- Text without padding. -/
def encode (a : Alphabet) : List UInt8 → List Char
  | [] => []
  | [x] => [char a (x.toNat / 4), char a (x.toNat % 4 * 16)]
  | [x, y] =>
    [char a (x.toNat / 4), char a (x.toNat % 4 * 16 + y.toNat / 16), char a (y.toNat % 16 * 4)]
  | x :: y :: z :: rest =>
    char a (x.toNat / 4) :: char a (x.toNat % 4 * 16 + y.toNat / 16) ::
      char a (y.toNat % 16 * 4 + z.toNat / 64) :: char a (z.toNat % 64) :: encode a rest

/-- The octets of a text without padding. -/
def decode (a : Alphabet) : List Char → Option (List UInt8)
  | [] => some []
  | [_] => none
  | [p, q] => do
    let p ← value? a p
    let q ← value? a q
    if q % 16 = 0 then some [UInt8.ofNat (p * 4 + q / 16)] else none
  | [p, q, r] => do
    let p ← value? a p
    let q ← value? a q
    let r ← value? a r
    if r % 4 = 0 then
      some [UInt8.ofNat (p * 4 + q / 16), UInt8.ofNat (q % 16 * 16 + r / 4)]
    else none
  | p :: q :: r :: s :: rest => do
    let p ← value? a p
    let q ← value? a q
    let r ← value? a r
    let s ← value? a s
    let octets ← decode a rest
    some (UInt8.ofNat (p * 4 + q / 16) :: UInt8.ofNat (q % 16 * 16 + r / 4) ::
      UInt8.ofNat (r % 4 * 64 + s) :: octets)

/-- The padding that fills the last group of four. -/
def padding (length : Nat) : List Char := List.replicate ((4 - length % 4) % 4) '='

def encodePadded (a : Alphabet) (octets : List UInt8) : List Char :=
  let text := encode a octets
  text ++ padding text.length

def decodePadded (a : Alphabet) (text : List Char) : Option (List UInt8) :=
  let body := text.takeWhile (· != '=')
  if text.dropWhile (· != '=') = padding body.length then decode a body else none

end Jadn.Format.Base64
