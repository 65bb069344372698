import Jadn.Numeral
import Jadn.Text.Cut

/-!
Octets as pairs of hexadecimal digits of either case, joined or, in hardware addresses,
separated by colons and hyphens.
-/

namespace Jadn.Format.Hex

def encode (octets : List UInt8) : List Char :=
  octets.flatMap fun b => [Numeral.hexChar (b.toNat / 16), Numeral.hexChar (b.toNat % 16)]

def octet? (high low : Char) : Option UInt8 := do
  let h ← Numeral.hexDigit? high
  let l ← Numeral.hexDigit? low
  some (UInt8.ofNat (16 * h + l))

def decode : List Char → Option (List UInt8)
  | [] => some []
  | [_] => none
  | high :: low :: rest => do
    let b ← octet? high low
    let octets ← decode rest
    some (b :: octets)

def isSeparator (c : Char) : Bool := c == ':' || c == '-'

/-- The octets of pairs with one separator between neighbours. -/
def decodeSeparated : List Char → Option (List UInt8)
  | [high, low] => (octet? high low).map ([·])
  | high :: low :: separator :: rest =>
    if isSeparator separator then do
      let b ← octet? high low
      let octets ← decodeSeparated rest
      some (b :: octets)
    else none
  | _ => none

/-- A hardware address has six octets or eight. -/
def decodeAddress (text : List Char) : Option (List UInt8) :=
  (decodeSeparated text).filter fun octets => octets.length == 6 || octets.length == 8

end Jadn.Format.Hex
