/-!
Texts of any characters written in ASCII letters, digits and hyphens, as in the labels of
domain names.

The ASCII characters of a text come first, up to the last hyphen. The others follow in
ascending order as numbers that say how far to count, over characters and places at once,
from one insertion to the next. The digits of a number weigh more or less by an adaptive bias.
-/

namespace Jadn.Url.Punycode

/-- The value of a digit below 36: letters of either case, then the decimal digits. -/
def digit? (c : Char) : Option Nat :=
  if 'a' ≤ c ∧ c ≤ 'z' then some (c.toNat - 'a'.toNat)
  else if 'A' ≤ c ∧ c ≤ 'Z' then some (c.toNat - 'A'.toNat)
  else if '0' ≤ c ∧ c ≤ '9' then some (c.toNat - '0'.toNat + 26)
  else none

/-- Digits below the threshold end a number. -/
def threshold (place bias : Nat) : Nat := min 26 (max 1 (place - bias))

def damp (delta : Nat) : Nat → Nat → Nat
  | 0, place => place + 36 * delta / (delta + 38)
  | fuel + 1, place =>
    if 455 < delta then damp (delta / 35) fuel (place + 36) else place + 36 * delta / (delta + 38)

/-- The bias after a step of `delta`, with so many characters in the text. -/
def adapt (delta size : Nat) (isFirst : Bool) : Nat :=
  let delta := if isFirst then delta / 700 else delta / 2
  let delta := delta + delta / size
  damp delta delta 0

/-- The number at the front, its digits weighing from `weight` on, and what follows it. -/
def number? (bias place weight value : Nat) : List Char → Option (Nat × List Char)
  | [] => none
  | c :: cs =>
    match digit? c with
    | none => none
    | some d =>
      let value := value + d * weight
      let t := threshold place bias
      if d < t then some (value, cs)
      else number? bias (place + 36) (weight * (36 - t)) value cs

/-- Inserts characters into a text from the numbers of their steps. `code` and `place` are
where the count stands, and `fuel` bounds the number of insertions. -/
def insertAll? : Nat → (code place bias : Nat) → (text numbers : List Char) → Option (List Char)
  | _, _, _, _, text, [] => some text
  | 0, _, _, _, _, _ => none
  | fuel + 1, code, place, bias, text, numbers =>
    match number? bias 36 1 0 numbers with
    | none => none
    | some (delta, rest) =>
      let size := text.length + 1
      let position := (place + delta) % size
      let code := code + (place + delta) / size
      if code.isValidChar then
        insertAll? fuel code (position + 1) (adapt delta size (place == 0))
          (text.take position ++ Char.ofNat code :: text.drop position) rest
      else none

/-- The text that ASCII text stands for. -/
def decode? (cs : List Char) : Option (List Char) :=
  let numbers := (cs.reverse.takeWhile (· != '-')).reverse
  let plain := cs.take (cs.length - numbers.length - 1)
  if plain.isEmpty ∧ cs.contains '-' then none
  else if plain.all (·.toNat < 0x80) then insertAll? numbers.length 0x80 0 72 plain numbers
  else none

end Jadn.Url.Punycode
