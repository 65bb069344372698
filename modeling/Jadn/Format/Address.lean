import Jadn.Numeral

/-!
Network addresses in text, and the octets they denote.

A decimal octet has no leading zero. The groups of a long address have one to four
hexadecimal digits; two colons stand for one or more groups of zeros, and the last two groups
may be written as a short address.
-/

namespace Jadn.Format.Address

/-- A decimal octet and what follows it. -/
def decimalOctet? (cs : List Char) : Option (Nat × List Char) :=
  let digits := cs.takeWhile Numeral.isDigit
  match Numeral.natural? digits with
  | some n =>
    if digits.length ≤ 3 ∧ n ≤ 255 ∧ (digits.head? ≠ some '0' ∨ digits.length = 1) then
      some (n, cs.dropWhile Numeral.isDigit)
    else none
  | none => none

def separated? (separator : Char) : List Char → Option (List Char)
  | c :: cs => if c = separator then some cs else none
  | [] => none

/-- Four octets separated by points, and what follows them. -/
def shortAddress? (cs : List Char) : Option (List Nat × List Char) := do
  let (a, cs) ← decimalOctet? cs
  let (b, cs) ← decimalOctet? (← separated? '.' cs)
  let (c, cs) ← decimalOctet? (← separated? '.' cs)
  let (d, cs) ← decimalOctet? (← separated? '.' cs)
  some ([a, b, c, d], cs)

/-- A group of one to four hexadecimal digits and what follows it. -/
def group? (cs : List Char) : Option (Nat × List Char) :=
  let isHex (c : Char) : Bool := (Numeral.hexDigit? c).isSome
  let digits := cs.takeWhile isHex
  if digits.isEmpty || 4 < digits.length then none
  else (Numeral.value? Numeral.hexDigit? 16 digits).map fun n => (n, cs.dropWhile isHex)

/-- As many groups as there are, up to a limit, whether the last two were a short address,
and what follows them. All but the first are behind a colon. -/
def groups : Nat → Bool → List Char → List Nat × Bool × List Char
  | 0, _, cs => ([], false, cs)
  | limit + 1, isFirst, cs =>
    match if isFirst then some cs else separated? ':' cs with
    | none => ([], false, cs)
    | some body =>
      match if 1 ≤ limit then shortAddress? body else none with
      | some ([a, b, c, d], rest) => ([256 * a + b, 256 * c + d], true, rest)
      | _ =>
        match group? body with
        | none => ([], false, cs)
        | some (g, rest) =>
          let (gs, short, rest) := groups limit false rest
          (g :: gs, short, rest)

/-- The eight groups of a long address. -/
def longGroups? (cs : List Char) : Option (List Nat) :=
  let (head, short, rest) := groups 8 true cs
  if head.length = 8 then (if rest.isEmpty then some head else none)
  else if short then none
  else match rest with
    | ':' :: ':' :: rest =>
      let (tail, _, rest) := groups (7 - head.length) true rest
      if rest.isEmpty then
        some (head ++ List.replicate (8 - head.length - tail.length) 0 ++ tail)
      else none
    | _ => none

def ipv4? (text : String) : Option (List UInt8) :=
  match shortAddress? text.toList with
  | some (octets, []) => some (octets.map UInt8.ofNat)
  | _ => none

def ipv6? (text : String) : Option (List UInt8) :=
  (longGroups? text.toList).map fun groups =>
    groups.flatMap fun g => [UInt8.ofNat (g / 256), UInt8.ofNat (g % 256)]

end Jadn.Format.Address
