import Jadn.Pattern.CharSet

/-!
Tables of character properties as text.

A table is a list of naturals, each written in base 32 with its low digits first: the digits
are those of a 64-letter alphabet, and a letter of the upper half says that more follow. Sets
of characters are written as the gap before each range and the number of characters after its
first; partitions as the class of each run and its length.
-/

namespace Jadn.Unicode

/-- Values 0 to 63 of the letters `0-9`, `A-Z`, `a-z`, `+` and `-`. -/
def letterValue (c : Char) : Nat :=
  let n := c.toNat
  if n = 43 then 62
  else if n = 45 then 63
  else if n < 58 then n - 48
  else if n < 91 then n - 55
  else n - 61

/-- The naturals of a table, given the value and weight of the number being read. -/
def decodeFrom (value weight : Nat) : List Char → List Nat
  | [] => []
  | c :: cs =>
    let v := letterValue c
    if v < 32 then (value + v * weight) :: decodeFrom 0 1 cs
    else decodeFrom (value + (v - 32) * weight) (weight * 32) cs

def decode (table : String) : List Nat := decodeFrom 0 1 table.toList

def rangesFrom (start : Nat) : List Nat → List (Nat × Nat)
  | gap :: more :: rest => (start + gap, start + gap + more) :: rangesFrom (start + gap + more + 1) rest
  | _ => []

/-- The set that a table of gaps and extents denotes. -/
def charSet (table : String) : CharSet := ⟨rangesFrom 0 (decode table)⟩

/-- The ranges of one class in a table of runs. -/
def runsOf (wanted : Nat → Bool) (start : Nat) : List Nat → List (Nat × Nat)
  | cls :: count :: rest =>
    if wanted cls then (start, start + count - 1) :: runsOf wanted (start + count) rest
    else runsOf wanted (start + count) rest
  | _ => []

/-- The runs of a table, each with its first character, its length and its class. -/
def runsFrom (start : Nat) : List Nat → List (Nat × Nat × Nat)
  | cls :: count :: rest => (start, count, cls) :: runsFrom (start + count) rest
  | _ => []

/-- The class of a character in a table of runs, zero beyond its end. -/
def classIn (runs : List (Nat × Nat × Nat)) (c : Char) : Nat :=
  match runs.find? fun (start, count, _) => c.toNat < start + count with
  | some (_, _, cls) => cls
  | none => 0

/-- Entries of texts for characters: the gap before each, a number that `flag` splits into the
length of its text and a mark, and the text. -/
def entriesFrom (fuel start : Nat) (flag : Nat → Nat × Bool) :
    List Nat → List (Nat × Bool × List Char)
  | gap :: count :: rest =>
    match fuel with
    | 0 => []
    | fuel + 1 =>
      let (length, mark) := flag count
      (start + gap, mark, (rest.take length).map Char.ofNat) ::
        entriesFrom fuel (start + gap + 1) flag (rest.drop length)
  | _ => []

/-- The characters in the wanted classes of a table of runs. -/
def classSet (table : List Nat) (wanted : Nat → Bool) : CharSet :=
  .ofRanges (runsOf wanted 0 table)

end Jadn.Unicode
