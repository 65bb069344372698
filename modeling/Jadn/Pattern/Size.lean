import Jadn.Pattern.Node

/-!
The size of the automaton that recognises a pattern in UTF-8, which is what patterns are
limited by: copies for counted repetitions, states for choices and groups, and one automaton
of byte ranges for each set of characters.
-/

namespace Jadn.Pattern

section Bytes

/-- The least and greatest code points with each length in UTF-8, surrogates left out. -/
def utf8Blocks : List (Nat × Nat × Nat) :=
  [(1, 0, 0x7F), (2, 0x80, 0x7FF), (3, 0x800, 0xD7FF), (3, 0xE000, 0xFFFF),
    (4, 0x10000, 0x10FFFF)]

/-- The sequences of byte ranges for the numbers of a range, given the mark of the first byte
and how many continuation bytes follow it. -/
def byteSequences : Nat → Nat → Nat → Nat → List (List (Nat × Nat))
  | 0, mark, low, high => [[(mark + low, mark + high)]]
  | rest + 1, mark, low, high =>
    let block := Nat.pow 64 (rest + 1)
    let first := low / block
    let last := high / block
    let within (lead l h : Nat) : List (List (Nat × Nat)) :=
      (byteSequences rest 0x80 l h).map ((mark + lead, mark + lead) :: ·)
    if first = last then within first (low % block) (high % block)
    else
      let start := if low % block = 0 then first else first + 1
      let stop := if high % block = block - 1 then last + 1 else last
      (if start = first then [] else within first (low % block) (block - 1)) ++
        (if start < stop then
          (byteSequences rest 0x80 0 (block - 1)).map ((mark + start, mark + stop - 1) :: ·)
        else []) ++
        (if stop = last then within last 0 (high % block) else [])

/-- The sequences of byte ranges for a set of characters. -/
def CharSet.byteSequences (s : CharSet) : List (List (Nat × Nat)) :=
  s.ranges.flatMap fun (low, high) =>
    utf8Blocks.flatMap fun (length, least, greatest) =>
      if low ≤ greatest ∧ least ≤ high then
        let mark := match length with
          | 1 => 0
          | 2 => 0xC0
          | 3 => 0xE0
          | _ => 0xF0
        Pattern.byteSequences (length - 1) mark (max low least) (min high greatest)
      else []

/-- The tails of sequences that begin with a range, for each range they begin with. -/
def tails : List (List (Nat × Nat)) → List ((Nat × Nat) × List (List (Nat × Nat)))
  | [] => []
  | [] :: rest => tails rest
  | (r :: tail) :: rest =>
    match tails rest with
    | (r', group) :: groups =>
      if r = r' then (r, tail :: group) :: groups else (r, [tail]) :: (r', group) :: groups
    | [] => [(r, [tail])]

/-- The states of an automaton of sequences, each as the sequences that it accepts, from new
ones on; states that were found before are not listed again. -/
def distinctStates (found new : List (List (List (Nat × Nat)))) :
    Nat → List (List (List (Nat × Nat)))
  | 0 => found
  | fuel + 1 =>
    let below := (new.flatMap fun s => (tails s).map Prod.snd).filter fun s => s != [[]]
    let fresh := below.foldl
      (fun fresh s => if found.contains s || fresh.contains s then fresh else s :: fresh) []
    if fresh.isEmpty then found else distinctStates (found ++ fresh) fresh fuel

end Bytes

/-- Sizes in bytes of a state, of a transition and of an alternative. -/
def stateSize : Nat := 32

def transitionSize : Nat := 8

def alternativeSize : Nat := 4

/-- The size of a state with a number of outgoing byte ranges. -/
def branchingSize (ranges : Nat) : Nat :=
  if ranges ≤ 1 then stateSize else stateSize + ranges * transitionSize

/-- The number of bytes of a code point. -/
def utf8Length (n : Nat) : Nat :=
  if n < 0x80 then 1 else if n < 0x800 then 2 else if n < 0x10000 then 3 else 4

/-- One state for ASCII sets, an automaton of byte ranges for others. -/
def setSize (s : CharSet) : Nat :=
  match s.ranges with
  | [(low, high)] =>
    if low = high then
      stateSize * utf8Length low
    else general
  | _ => general
where
  general : Nat :=
    if s.isAscii then stateSize + branchingSize s.ranges.length
    else
      let start := CharSet.byteSequences s
      let states := distinctStates [start] [start] 4
      stateSize + (states.map fun q => branchingSize (tails q).length).foldl (· + ·) 0

/-- The most characters of a match, none when there is no bound. -/
def Node.longest? : Node → Option Nat
  | .empty => some 0
  | .chars _ => some 1
  | .place _ => some 0
  | .seq a b => do return (← a.longest?) + (← b.longest?)
  | .alt a b => do return max (← a.longest?) (← b.longest?)
  | .repetition _ most? body =>
    match body.longest?, most? with
    | some 0, _ => some 0
    | _, some 0 => some 0
    | some n, some most => some (n * most)
    | _, _ => none
  | .group body => body.longest?

/-- The size of the automaton of a node. A body that matches only empty text is repeated at
most once. -/
def Node.size : Node → Nat
  | .empty => stateSize
  | .chars set => setSize set
  | .place _ => stateSize
  | .seq a b => a.size + b.size
  | .alt a b => a.size + b.size + 2 * stateSize + 2 * alternativeSize
  | .group body => body.size + 2 * stateSize
  | .repetition least most? body =>
    let onlyEmpty := body.longest? == some 0
    let least := if onlyEmpty then min least 1 else least
    let most? := if onlyEmpty then some ((most?.map (min 1)).getD 1) else most?
    let branch := stateSize + 2 * alternativeSize
    match most? with
    | none => max least 1 * body.size + branch
    | some 0 => stateSize
    | some most => least * body.size + (most - least) * (body.size + branch) + stateSize

/-- Ten mebibytes. -/
def sizeLimit : Nat := 10 * 1024 * 1024

end Jadn.Pattern
