/-!
Sets of characters as ascending, disjoint and non-adjacent ranges of code points.

`CharSet.ofRanges` brings any list of ranges into that form; the operations keep it. A set
may run across the surrogates, which no character is.
-/

namespace Jadn

/-- Inclusive ranges of code points. -/
structure CharSet where
  ranges : List (Nat × Nat)
  deriving DecidableEq, Inhabited

namespace CharSet

def maxCode : Nat := 0x10FFFF

def empty : CharSet := ⟨[]⟩

def all : CharSet := ⟨[(0, maxCode)]⟩

def contains (s : CharSet) (c : Char) : Bool :=
  s.ranges.any fun (low, high) => low ≤ c.toNat && c.toNat ≤ high

def isEmpty (s : CharSet) : Bool := s.ranges.isEmpty

/-- Adds a range to ascending ranges, joining all that it meets. -/
def insertRange (low high : Nat) : List (Nat × Nat) → List (Nat × Nat)
  | [] => [(low, high)]
  | (l, h) :: rest =>
    if high + 1 < l then (low, high) :: (l, h) :: rest
    else if h + 1 < low then (l, h) :: insertRange low high rest
    else insertRange (min low l) (max high h) rest

def ofRanges (ranges : List (Nat × Nat)) : CharSet :=
  ⟨ranges.foldl (fun s (low, high) => insertRange low high s) []⟩

def singleton (c : Char) : CharSet := ⟨[(c.toNat, c.toNat)]⟩

def range (low high : Char) : CharSet := ⟨[(low.toNat, high.toNat)]⟩

def union (s t : CharSet) : CharSet :=
  ⟨t.ranges.foldl (fun acc (low, high) => insertRange low high acc) s.ranges⟩

/-- The gaps between ranges, from a code point on. -/
def gaps (start : Nat) : List (Nat × Nat) → List (Nat × Nat)
  | [] => if start ≤ maxCode then [(start, maxCode)] else []
  | (low, high) :: rest =>
    if start < low then (start, low - 1) :: gaps (high + 1) rest else gaps (high + 1) rest

def complement (s : CharSet) : CharSet := ⟨gaps 0 s.ranges⟩

def inter (s t : CharSet) : CharSet :=
  (s.complement.union t.complement).complement

def diff (s t : CharSet) : CharSet := s.inter t.complement

def symmDiff (s t : CharSet) : CharSet := (s.diff t).union (t.diff s)

/-- Whether every member is an ASCII character. -/
def isAscii (s : CharSet) : Bool := s.ranges.all fun (_, high) => high < 0x80

end CharSet

end Jadn
