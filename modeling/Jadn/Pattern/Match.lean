import Jadn.Pattern.Node

/-!
Matching by sets of places.

A node takes each set of places in a text to the set of places at which its matches from
there end. A repetition goes on from the places it has not ended at before, so it needs no
more rounds than the text has places.
-/

namespace Jadn.Pattern

abbrev Chars := Array Char

/-- Places in a text, as the number of characters before them. -/
abbrev Places := List Nat

def Places.union (s t : Places) : Places := s ++ t.filter fun i => !s.contains i

def isWord (ascii : Bool) (c : Char) : Bool :=
  if ascii || c.toNat < 0x80 then c.isAlphanum || c = '_' else wordSet.contains c

/-- Whether a condition holds at a place. -/
def Place.holds (text : Chars) (i : Nat) : Place → Bool
  | .start => i == 0
  | .stop => i == text.size
  | .lineStart crlf =>
    i == 0 || before '\n' || (crlf && before '\r' && !after '\n')
  | .lineEnd crlf =>
    i == text.size ||
      if crlf then after '\r' || (after '\n' && !before '\r') else after '\n'
  | .word ascii kind =>
    let left := (previous?).any (isWord ascii)
    let right := (text[i]?).any (isWord ascii)
    match kind with
    | .wordBoundary => left != right
    | .notWordBoundary => left == right
    | .wordStart => !left && right
    | .wordEnd => left && !right
    | .wordStartHalf => !left
    | .wordEndHalf => !right
    | _ => false
where
  previous? : Option Char := if i = 0 then none else text[i - 1]?
  before (c : Char) : Bool := previous? == some c
  after (c : Char) : Bool := text[i]? == some c

/-- Applies a step up to the given number of times, or until nothing changes. -/
def iterate (step : Places → Places) : Nat → Places → Places
  | 0, s => s
  | n + 1, s =>
    let t := step s
    if t = s then s else iterate step n t

/-- The places reached from new ones in up to the given number of steps, with those reached
before. -/
def closure (step : Places → Places) : Nat → Places → Places → Places
  | 0, reached, _ => reached
  | n + 1, reached, new =>
    match (step new).filter fun i => !reached.contains i with
    | [] => reached
    | next => closure step n (reached ++ next) next

/-- The ends of matches that start at the given places. -/
def Node.ends (text : Chars) : Node → Places → Places
  | .empty, s => s
  | .chars set, s => (s.filter fun i => (text[i]?).any set.contains).map (· + 1)
  | .place p, s => s.filter fun i => p.holds text i
  | .seq a b, s => b.ends text (a.ends text s)
  | .alt a b, s => (a.ends text s).union (b.ends text s)
  | .repetition least most? body, s =>
    let step := body.ends text
    let first := iterate step least s
    match most? with
    | some most => closure step (min (most - least) (text.size + 1)) first first
    | none => closure step (text.size + 1) first first
  | .group body, s => body.ends text s

/-- Whether some part of the text matches. -/
def Node.occursIn (n : Node) (text : String) : Bool :=
  let chars := text.toList.toArray
  !(n.ends chars (List.range (chars.size + 1))).isEmpty

end Jadn.Pattern
