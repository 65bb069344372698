import Jadn.Format.Address
import Jadn.Url.Domain

/-!
Hosts of URLs: domain names, addresses in brackets, numbers that stand for short addresses,
and, where the scheme gives them no meaning, almost any text.
-/

namespace Jadn.Url.Host

/-- Octets with the escapes of a percent sign and two digits replaced. -/
def unescaped : List UInt8 → List UInt8
  | 0x25 :: high :: low :: rest =>
    match Numeral.hexDigit? (Char.ofUInt8 high), Numeral.hexDigit? (Char.ofUInt8 low) with
    | some h, some l => UInt8.ofNat (16 * h + l) :: unescaped rest
    | _, _ => 0x25 :: unescaped (high :: low :: rest)
  | b :: rest => b :: unescaped rest
  | [] => []

/-- The text that a text with escapes stands for, if its octets are text at all. -/
def unescape? (text : List Char) : Option (List Char) :=
  let octets := (String.ofList text).toUTF8.toList
  (String.fromUTF8? ⟨(unescaped octets).toArray⟩).map String.toList

def octalDigit? (c : Char) : Option Nat := (Numeral.digit? c).filter (· < 8)

/-- A part of a short address; zeros at the front mark octal and hexadecimal numbers. -/
def number? : List Char → Option Nat
  | [] => none
  | '0' :: 'x' :: digits => Numeral.value? Numeral.hexDigit? 16 digits
  | '0' :: d :: digits => Numeral.value? octalDigit? 8 (d :: digits)
  | digits => Numeral.value? Numeral.digit? 10 digits

/-- The labels without an empty one at the end. -/
def withoutRoot (labels : List (List Char)) : List (List Char) :=
  if labels.getLast? = some [] then labels.dropLast else labels

def endsInNumber (labels : List (List Char)) : Bool :=
  (withoutRoot labels).getLast?.any fun label =>
    (!label.isEmpty && label.all Numeral.isDigit) || (number? label).isSome

/-- At most four numbers, of which the last fills the octets that the others leave. -/
def isShortAddress (labels : List (List Char)) : Bool :=
  match (withoutRoot labels).mapM number? with
  | none => false
  | some numbers =>
    numbers.length ≤ 4 && numbers.dropLast.all (· ≤ 255) &&
      numbers.getLast?.all (· < Nat.pow 256 (5 - numbers.length))

/-- A long address, the bracket before it left out. -/
def isBracketed (text : List Char) : Bool :=
  text.getLast? == some ']' && (Format.Address.longGroups? text.dropLast).isSome

/-- The host of a scheme that knows domain names. -/
def isDomainOrAddress : List Char → Bool
  | '[' :: text => isBracketed text
  | text =>
    match (unescape? text).bind Domain.labels? with
    | none => false
    | some labels => labels != [[]] && (!endsInNumber labels || isShortAddress labels)

def isForbidden (c : Char) : Bool :=
  "\x00\t\n\r #/:<>?@[\\]^|".toList.contains c

/-- The host of any other scheme. -/
def isOpaque : List Char → Bool
  | '[' :: text => isBracketed text
  | text => !text.any isForbidden

end Jadn.Url.Host
