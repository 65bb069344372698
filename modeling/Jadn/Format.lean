import Jadn.Error.Validation
import Jadn.Format.Address
import Jadn.Format.Base64
import Jadn.Format.Hex
import Jadn.Format.Host
import Jadn.Format.Pointer
import Jadn.Format.Time
import Jadn.Json
import Jadn.Pattern
import Jadn.Url

/-!
Formats: keywords of semantic checks on strings, octets, numbers and arrays.

The errors name no type; whoever asks for a check knows the type and adds it.
-/

namespace Jadn.Format

def unknown (format : String) : ValidationError := .of (.unknownFormat format)

/-- The error of a value that a format refuses. -/
def mismatch (format actual : String) : ValidationError :=
  { ValidationError.of (.formatMismatch format) with
    expected := some format, actual := some actual }

section Strings

def isAscii (cs : List Char) : Bool := cs.all (·.toNat < 0x80)

def isReference (cs : List Char) : Bool := !cs.any Text.isBlank && Url.isReference cs

def isPattern (cs : List Char) : Bool := (Pattern.compile (String.ofList cs)).isOk

/-- The formats of strings, each with the texts that it accepts. -/
def stringFormats : Dict (List Char → Bool) :=
  [("date-time", Time.isDateTime),
   ("date", Time.isCalendarDate),
   ("time", Time.isTime),
   ("email", Host.isMail),
   ("idn-email", Host.isInternationalMail),
   ("hostname", Host.isHost Host.asciiLabel),
   ("idn-hostname", Host.isHost Host.internationalLabel),
   ("ipv4", fun cs => (Address.ipv4? (String.ofList cs)).isSome),
   ("ipv6", fun cs => (Address.ipv6? (String.ofList cs)).isSome),
   ("uri", fun cs => isAscii cs && Url.isAbsolute cs),
   ("uri-reference", fun cs => isAscii cs && isReference cs),
   ("iri", Url.isAbsolute),
   ("iri-reference", isReference),
   ("uri-template", Pointer.isTemplate),
   ("json-pointer", Pointer.isPointer),
   ("relative-json-pointer", Pointer.isRelative),
   ("regex", isPattern)]

def checkString (format value : String) : Except ValidationError Unit :=
  match stringFormats.lookup format with
  | none => .error (unknown format)
  | some accepts => if accepts value.toList then .ok () else .error (mismatch format value)

end Strings

section Octets

def withoutPadding (cs : List Char) : List Char := (cs.reverse.dropWhile (· == '=')).reverse

/-- The octets that the text of a binary value stands for. Without a format it is base64 with
the alphabet for URLs, however much padding there is. -/
def decodeOctets (format : Option String) (value : String) : Except ValidationError (List UInt8) :=
  let decoded (name : String) (octets : Option (List UInt8)) :
      Except ValidationError (List UInt8) :=
    match octets with
    | some octets => .ok octets
    | none => .error (mismatch name value)
  match format with
  | none => decoded "base64url" (Base64.decode Base64.urlSafe (withoutPadding value.toList))
  | some "b" => decoded "base64" (Base64.decodePadded Base64.standard value.toList)
  | some "x" => decoded "hex" (Hex.decode value.toList)
  | some "eui" => decoded "eui" (Hex.decodeAddress value.toList)
  | some "ipv4-addr" => decoded "ipv4-addr" (Address.ipv4? value)
  | some "ipv6-addr" => decoded "ipv6-addr" (Address.ipv6? value)
  | some other => .error (unknown other)

/-- The numbers of octets that a format accepts. -/
def acceptedLength? (format : String) : Option (Nat → Bool) :=
  match format with
  | "eui" => some fun n => n == 6 || n == 8
  | "ipv4-addr" => some (· == 4)
  | "ipv6-addr" => some (· == 16)
  | "x" | "b" => some fun _ => true
  | _ => none

def checkLength (format : String) (length : Nat) : Except ValidationError Unit :=
  match acceptedLength? format with
  | none => .error (unknown format)
  | some accepts =>
    if accepts length then .ok () else .error (mismatch format s!"{length} octets")

end Octets

section Numbers

/-- The width that a format of integers ends in: digits without leading zeros. -/
def width? (digits : List Char) : Option Nat :=
  if digits.head? = some '0' then none else Numeral.natural? digits

/-- The least and the greatest integer of a format: signed ones have the widths of machine
words, unsigned ones any width up to 64. -/
def integerRange? (format : String) : Option (Int × Int) :=
  match format.toList with
  | 'i' :: digits =>
    match width? digits with
    | some bits =>
      let half : Int := Nat.pow 2 (bits - 1)
      if bits ∈ [8, 16, 32, 64] then some (-half, half - 1) else none
    | none => none
  | 'u' :: digits =>
    match width? digits with
    | some bits => if bits ≤ 64 then some (0, Nat.pow 2 bits - 1) else none
    | none => none
  | _ => none

def checkInteger (format : String) (value : Int) : Except ValidationError Unit :=
  match integerRange? format with
  | none => .error (unknown format)
  | some (least, greatest) =>
    if least ≤ value ∧ value ≤ greatest then .ok ()
    else
      .error { mismatch format (toString value) with
        reason := some s!"value must be {least} <= x <= {greatest}" }

/-- Formats of reals restrict no values. -/
def checkNumber (format : String) : Except ValidationError Unit :=
  if format ∈ ["f16", "f32", "f64"] then .ok () else .error (unknown format)

end Numbers

section Arrays

/-- The longest network address of a format, in bits. -/
def longestNetwork? (format : String) : Option Nat :=
  match format with
  | "ipv4-net" => some 32
  | "ipv6-net" => some 128
  | _ => none

/-- The array that a value of a network format stands for: the parts of a string at its first
slash, with the length as a number, or the value itself if it is no string. -/
def networkParts (format : String) (value : Json) : Except ValidationError Json :=
  match longestNetwork? format with
  | none => .error (unknown format)
  | some longest =>
    match value with
    | .str text =>
      match Text.cut? '/' text with
      | none => .error (mismatch format text)
      | some (address, length) =>
        match Numeral.int64? length with
        | none => .error (mismatch format text)
        | some n =>
          if 0 ≤ n.toInt ∧ n.toInt ≤ longest then .ok (.arr [.str address, .ofInt64 n])
          else
            .error { mismatch format text with
              reason := some s!"prefix length must be 0 <= x <= {longest}" }
    | value => .ok value

end Arrays

/-- Checks a string against a pattern. -/
def checkPattern (pattern : Pattern) (value : String) : Except ValidationError Unit :=
  if pattern.occursIn value then .ok ()
  else
    .error { ValidationError.of .patternMismatch with
      expected := some pattern.source, actual := some value }

end Jadn.Format
