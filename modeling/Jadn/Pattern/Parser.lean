import Jadn.Numeral
import Jadn.Pattern.Syntax
import Jadn.Text.Blank
import Jadn.Unicode.Letter

/-!
Reading patterns.

`Expr.parse` reads a text one construct at a time and keeps the groups that are still open; a
group that closes becomes a part of the branch around it. Classes in brackets are read in the
same way. Where blanks are ignored, comments are too.
-/

namespace Jadn.Pattern

section Blanks

/-- Skips blanks and comments, given whether a comment is open. -/
def skipBlanks : Bool → List Char → List Char
  | _, [] => []
  | true, c :: cs => skipBlanks (c != '\n') cs
  | false, c :: cs =>
    if Text.isBlank c then skipBlanks false cs
    else if c = '#' then skipBlanks true cs
    else c :: cs

/-- Skips blanks and comments where they are ignored. -/
def skip (verbose : Bool) (cs : List Char) : List Char :=
  if verbose then skipBlanks false cs else cs

/-- The next character that is no blank, the sign of a comment counting as one. -/
def peek? (verbose : Bool) (cs : List Char) : Option Char :=
  let rec significant : Bool → List Char → Option Char
    | _, [] => none
    | comment, c :: cs =>
      if Text.isBlank c then significant comment cs
      else if !comment && c = '#' then significant true cs
      else some c
  if verbose then significant false cs <|> cs.head? else cs.head?

end Blanks

section Counts

/-- A run of digits, blanks between them skipped where they are ignored. -/
def digitRun (verbose : Bool) : Nat → List Char → List Char × List Char
  | fuel + 1, c :: cs =>
    if Numeral.isDigit c then
      let (digits, rest) := digitRun verbose fuel (skip verbose cs)
      (c :: digits, rest)
    else ([], c :: cs)
  | _, cs => ([], cs)

/-- A count between blanks, that fits 32 bits. -/
def count (verbose : Bool) (cs : List Char) : Except Fault (Nat × List Char) :=
  let cs := cs.dropWhile Text.isBlank
  let (digits, rest) := digitRun verbose cs.length cs
  match Numeral.natural? digits with
  | some n =>
    if n < UInt32.size then .ok (n, rest.dropWhile Text.isBlank) else .error .repetitionCount
  | none => .error .repetitionCount

/-- The bounds of a repetition, after the opening brace and past the closing one. -/
def bounds (verbose : Bool) (cs : List Char) :
    Except Fault (Nat × Option Nat × List Char) := do
  let (least, cs) ← count verbose (skip verbose cs)
  let (most?, cs) ← match cs with
    | ',' :: cs =>
      match skip verbose cs with
      | '\x7d' :: cs => pure (none, '\x7d' :: cs)
      | cs => do
        let (most, cs) ← count verbose cs
        pure (some most, cs)
    | cs => pure (some least, cs)
  match cs with
  | '\x7d' :: cs =>
    if most?.any (· < least) then .error .repetitionCount
    else
      match skip verbose cs with
      | '?' :: cs => .ok (least, most?, cs)
      | cs => .ok (least, most?, cs)
  | _ => .error .repetitionCount

end Counts

section Escapes

def isMeta (c : Char) : Bool := "\\.+*?()|[]\x7b\x7d^$#&-~".toList.contains c

/-- Characters other than letters and digits that stand for themselves when escaped. -/
def isEscapable (c : Char) : Bool :=
  isMeta c || (c.toNat < 0x80 && !c.isAlphanum && c != '<' && c != '>')

def hexLiteral (isByte : Bool) (digits : List Char) : Except Fault Literal :=
  match Numeral.value? Numeral.hexDigit? 16 digits with
  | some n => if n.isValidChar then .ok ⟨Char.ofNat n, isByte⟩ else .error .hexadecimal
  | none => .error .hexadecimal

/-- A fixed number of hexadecimal digits. -/
def hexDigits (verbose : Bool) : Nat → List Char → Except Fault (List Char × List Char)
  | 0, cs => .ok ([], cs)
  | n + 1, c :: cs => do
    if (Numeral.hexDigit? c).isNone then .error .hexadecimal
    else
      let (digits, rest) ← hexDigits verbose n (skip verbose cs)
      .ok (c :: digits, rest)
  | _ + 1, [] => .error .endOfEscape

/-- The characters up to a closing brace, blanks skipped where they are ignored. -/
def untilBrace (verbose : Bool) : Nat → List Char → Except Fault (List Char × List Char)
  | fuel + 1, cs =>
    match skip verbose cs with
    | [] => .error .endOfEscape
    | '\x7d' :: rest => .ok ([], rest)
    | c :: cs => do
      let (inner, rest) ← untilBrace verbose fuel cs
      .ok (c :: inner, rest)
  | 0, _ => .error .endOfEscape

/-- A hexadecimal escape after its letter; `width` is the number of digits without braces. -/
def hexEscape (verbose : Bool) (width : Nat) (cs : List Char) :
    Except Fault (Literal × List Char) := do
  match skip verbose cs with
  | [] => .error .endOfEscape
  | '\x7b' :: cs =>
    let (digits, rest) ← untilBrace verbose (cs.length + 1) cs
    if digits.isEmpty then .error .hexadecimal
    else return (← hexLiteral false digits, skip verbose rest)
  | cs =>
    let (digits, rest) ← hexDigits verbose width cs
    return (← hexLiteral (width == 2) digits, rest)

/-- The query in the braces of a property, cut at its first operator. -/
def propertyQuery (name : List Char) : PropertyQuery :=
  let text := String.ofList
  let rec atDifference : List Char → List Char → Option PropertyQuery
    | done, '!' :: '=' :: rest => some (.valued (text done.reverse) (text rest))
    | done, c :: rest => atDifference (c :: done) rest
    | _, [] => none
  let cutAt (c : Char) : Option PropertyQuery :=
    if name.contains c then
      some (.valued (text (name.takeWhile (· != c))) (text ((name.dropWhile (· != c)).drop 1)))
    else none
  (atDifference [] name <|> cutAt ':' <|> cutAt '=').getD (.named (text name))

/-- A property after its letter: one character, or a query in braces. -/
def propertyEscape (verbose : Bool) (cs : List Char) :
    Except Fault (PropertyQuery × List Char) := do
  match skip verbose cs with
  | [] => .error .endOfEscape
  | '\x7b' :: cs =>
    let (name, rest) ← untilBrace verbose (cs.length + 1) cs
    return (propertyQuery name, rest)
  | c :: cs =>
    if c = '\\' then .error .unknownProperty
    else return (.named c.toString, skip verbose cs)

/-- The letters of a special word boundary, blanks skipped where they are ignored. -/
def boundaryName (verbose : Bool) : Nat → List Char → List Char × List Char
  | fuel + 1, c :: cs =>
    if c.isAlpha || c = '-' then
      let (name, rest) := boundaryName verbose fuel (skip verbose cs)
      (c :: name, rest)
    else ([], c :: cs)
  | _, cs => ([], cs)

/-- A word boundary, and the kind in braces that may follow it. Braces without a name in them
are left to be read as a count. -/
def boundaryEscape (verbose : Bool) (cs : List Char) :
    Except Fault (Assertion × List Char) := do
  match cs with
  | '\x7b' :: inner =>
    match skip verbose inner with
    | [] => .error .wordBoundary
    | c :: rest =>
      if !(c.isAlpha || c = '-') then .ok (.wordBoundary, cs)
      else
        let (name, rest) := boundaryName verbose rest.length.succ (c :: rest)
        match rest with
        | '\x7d' :: rest =>
          match String.ofList name with
          | "start" => .ok (.wordStart, rest)
          | "end" => .ok (.wordEnd, rest)
          | "start-half" => .ok (.wordStartHalf, rest)
          | "end-half" => .ok (.wordEndHalf, rest)
          | _ => .error .wordBoundary
        | _ => .error .wordBoundary
  | cs => .ok (.wordBoundary, cs)

/-- An escape sequence after its backslash. -/
def escape (verbose : Bool) : List Char → Except Fault (Expr × List Char)
  | [] => .error .endOfEscape
  | c :: cs =>
    let plain (d : Char) : Except Fault (Expr × List Char) := .ok (.literal ⟨d, false⟩, cs)
    let assertion (kind : Assertion) : Except Fault (Expr × List Char) :=
      .ok (.assertion kind, cs)
    let hex (width : Nat) : Except Fault (Expr × List Char) :=
      (hexEscape verbose width cs).map fun (l, rest) => (.literal l, rest)
    let property (negated : Bool) : Except Fault (Expr × List Char) :=
      (propertyEscape verbose cs).map fun (q, rest) => (.property negated q, rest)
    if Numeral.isDigit c then .error .backreference
    else match c with
      | 'x' => hex 2
      | 'u' => hex 4
      | 'U' => hex 8
      | 'p' => property false
      | 'P' => property true
      | 'd' => .ok (.perl false .digit, cs)
      | 'D' => .ok (.perl true .digit, cs)
      | 's' => .ok (.perl false .space, cs)
      | 'S' => .ok (.perl true .space, cs)
      | 'w' => .ok (.perl false .word, cs)
      | 'W' => .ok (.perl true .word, cs)
      | 'a' => plain '\x07'
      | 'f' => plain '\x0c'
      | 't' => plain '\t'
      | 'n' => plain '\n'
      | 'r' => plain '\r'
      | 'v' => plain '\x0b'
      | 'A' => assertion .startText
      | 'z' => assertion .endText
      | 'b' => (boundaryEscape verbose cs).map fun (kind, rest) => (.assertion kind, rest)
      | 'B' => assertion .notWordBoundary
      | '<' => assertion .wordStart
      | '>' => assertion .wordEnd
      | c => if isEscapable c then plain c else .error (.unknownEscape c)

end Escapes

section Classes

def AsciiClass.ofName? : String → Option AsciiClass
  | "alnum" => some .alnum
  | "alpha" => some .alpha
  | "ascii" => some .ascii
  | "blank" => some .blank
  | "cntrl" => some .cntrl
  | "digit" => some .digit
  | "graph" => some .graph
  | "lower" => some .lower
  | "print" => some .print
  | "punct" => some .punct
  | "space" => some .space
  | "upper" => some .upper
  | "word" => some .word
  | "xdigit" => some .xdigit
  | _ => none

/-- A class such as `[:alpha:]`, after its opening bracket. -/
def asciiClass? : List Char → Option (ClassSet × List Char)
  | ':' :: cs =>
    let (negated, cs) := match cs with
      | '^' :: cs => (true, cs)
      | cs => (false, cs)
    match cs.dropWhile (· != ':') with
    | ':' :: ']' :: rest =>
      (AsciiClass.ofName? (String.ofList (cs.takeWhile (· != ':')))).map fun cls =>
        (.ascii negated cls, rest)
    | _ => none
  | _ => none

/-- What encloses the items being read. -/
inductive ClassFrame where
  /-- A class that is open, with the items before it, last one first. -/
  | opened (negated : Bool) (before : List ClassSet)
  | operator (op : ClassOperator) (lhs : ClassSet)

/-- Hyphens at the start of a class, which stand for themselves. -/
def leadingHyphens (verbose : Bool) : Nat → List Char → List ClassSet × List Char
  | fuel + 1, '-' :: cs =>
    let (items, rest) := leadingHyphens verbose fuel (skip verbose cs)
    (.literal ⟨'-', false⟩ :: items, rest)
  | _, cs => ([], cs)

/-- The start of a class after its opening bracket: its negation, and the hyphens or closing
bracket that stand for themselves there. -/
def openClass (verbose : Bool) (cs : List Char) :
    Except Fault (Bool × List ClassSet × List Char) :=
  let (negated, cs) := match skip verbose cs with
    | '^' :: cs => (true, skip verbose cs)
    | cs => (false, cs)
  let (items, cs) := leadingHyphens verbose cs.length cs
  match items, cs with
  | _, [] => .error .unclosedClass
  | [], ']' :: cs =>
    match skip verbose cs with
    | [] => .error .unclosedClass
    | cs => .ok (negated, [.literal ⟨']', false⟩], cs)
  | items, cs => .ok (negated, items, cs)

/-- One item of a class that is neither an operator nor a bracket. -/
def classItem (verbose : Bool) : List Char → Except Fault (Expr × List Char)
  | '\\' :: cs => escape verbose cs
  | c :: cs => .ok (.literal ⟨c, false⟩, cs)
  | [] => .error .unclosedClass

def classSetOf : Expr → Except Fault ClassSet
  | .literal l => .ok (.literal l)
  | .perl negated cls => .ok (.perl negated cls)
  | .property negated query => .ok (.property negated query)
  | _ => .error .classEscape

def classLiteralOf : Expr → Except Fault Literal
  | .literal l => .ok l
  | _ => .error .classRange

/-- An item, or a range of characters. -/
def classRange (verbose : Bool) (cs : List Char) : Except Fault (ClassSet × List Char) := do
  let (first, cs) ← classItem verbose cs
  match skip verbose cs with
  | [] => .error .unclosedClass
  | '-' :: rest =>
    let following := peek? verbose rest
    if following == some ']' || following == some '-' then
      return (← classSetOf first, '-' :: rest)
    else
      match skip verbose rest with
      | [] => .error .unclosedClass
      | rest =>
        let (second, rest) ← classItem verbose rest
        let low ← classLiteralOf first
        let high ← classLiteralOf second
        if high.char < low.char then .error .classRange else return (.range low high, rest)
  | cs => return (← classSetOf first, cs)

/-- Applies the operator that waits for its right side, if there is one. -/
def closeOperator (frames : List ClassFrame) (rhs : ClassSet) : List ClassFrame × ClassSet :=
  match frames with
  | .operator op lhs :: outer => (outer, .operation op lhs rhs)
  | frames => (frames, rhs)

def classOperator? : List Char → Option (ClassOperator × List Char)
  | '&' :: '&' :: rest => some (.intersection, rest)
  | '-' :: '-' :: rest => some (.difference, rest)
  | '~' :: '~' :: rest => some (.symmetricDifference, rest)
  | _ => none

/-- Reads a class to the bracket that closes its outermost frame; `items` are those of the
innermost one, last one first. -/
def classBody (verbose : Bool) : Nat → List ClassFrame → List ClassSet → List Char →
    Except Fault (Expr × List Char)
  | fuel + 1, frames, items, cs => do
    let cs := skip verbose cs
    match cs with
    | [] => .error .unclosedClass
    | '[' :: rest =>
      match asciiClass? rest with
      | some (cls, rest) => classBody verbose fuel frames (cls :: items) rest
      | none =>
        let (negated, inner, rest) ← openClass verbose rest
        classBody verbose fuel (.opened negated items :: frames) inner rest
    | ']' :: rest =>
      let (frames, set) := closeOperator frames (.ofItems items.reverse)
      match frames with
      | [.opened negated _] => return (.bracketed negated set, rest)
      | .opened negated before :: outer =>
        classBody verbose fuel outer (.bracketed negated set :: before) rest
      | _ => .error .unclosedClass
    | cs =>
      match classOperator? cs with
      | some (op, rest) =>
        let (frames, lhs) := closeOperator frames (.ofItems items.reverse)
        classBody verbose fuel (.operator op lhs :: frames) [] rest
      | none =>
        let (item, rest) ← classRange verbose cs
        classBody verbose fuel frames (item :: items) rest
  | 0, _, _, _ => .error .unclosedClass

/-- A class after its opening bracket. -/
def classExpr (verbose : Bool) (cs : List Char) : Except Fault (Expr × List Char) := do
  let (negated, items, rest) ← openClass verbose cs
  classBody verbose (rest.length + 1) [.opened negated []] items rest

end Classes

section Groups

def Flag.ofChar? : Char → Option Flag
  | 'i' => some .caseInsensitive
  | 'm' => some .multiLine
  | 's' => some .dotMatchesNewLine
  | 'U' => some .swapGreed
  | 'u' => some .unicode
  | 'R' => some .crlf
  | 'x' => some .ignoreBlanks
  | _ => none

/-- Flags up to a colon, which opens a group, or a closing parenthesis, which does not. The
sign of negation may stand once, and not last. -/
def flagItems (items : FlagItems) (negated dangling : Bool) :
    List Char → Except Fault (FlagItems × Bool × List Char)
  | [] => .error .unclosedGroup
  | c :: cs =>
    if c = ':' || c = ')' then
      if dangling then .error .flags else .ok (items, c = ':', cs)
    else if c = '-' then
      if negated then .error .flags else flagItems items true true cs
    else
      match Flag.ofChar? c with
      | none => .error .flags
      | some flag =>
        if flag ∈ items.on || flag ∈ items.off then .error .flags
        else if negated then flagItems { items with off := items.off ++ [flag] } true false cs
        else flagItems { items with on := items.on ++ [flag] } false false cs

def isNameChar (first : Bool) (c : Char) : Bool :=
  if first then c = '_' || Unicode.isAlphabetic c
  else c = '_' || c = '.' || c = '[' || c = ']' || Unicode.isAlphanumeric c

/-- The name of a group up to its closing angle bracket. -/
def groupName (cs : List Char) : Except Fault (String × List Char) :=
  match cs.takeWhile (· != '>'), cs.dropWhile (· != '>') with
  | c :: name, '>' :: rest =>
    if isNameChar true c && name.all (isNameChar false) then .ok (String.ofList (c :: name), rest)
    else .error .groupName
  | _, _ => .error .groupName

/-- What an opening parenthesis begins. -/
inductive Opening where
  | group (kind : GroupKind)
  | named (name : String)
  | flags (items : FlagItems)

def openingOf (verbose : Bool) (cs : List Char) : Except Fault (Opening × List Char) := do
  match skip verbose cs with
  | '?' :: '=' :: _ | '?' :: '!' :: _ | '?' :: '<' :: '=' :: _ | '?' :: '<' :: '!' :: _ =>
    .error .lookAround
  | '?' :: 'P' :: '<' :: cs | '?' :: '<' :: cs =>
    let (name, rest) ← groupName cs
    return (.named name, rest)
  | '?' :: cs =>
    let (items, opens, rest) ← flagItems ⟨[], []⟩ false false cs
    if opens then return (.group (.flagged items), rest)
    else if items.on.isEmpty && items.off.isEmpty then .error .nothingToRepeat
    else return (.flags items, rest)
  | cs => return (.group .capturing, cs)

end Groups

/-- A group that is open: what came before it, last one first, and how it was opened. -/
structure OpenGroup where
  branches : List Expr
  parts : List Expr
  kind : GroupKind
  /-- Whether blanks are ignored around the group. -/
  verbose : Bool

/-- What has been read: the branches and parts of the innermost group, last one first, and
the groups around it, innermost first. -/
structure Reading where
  branches : List Expr
  parts : List Expr
  outer : List OpenGroup
  verbose : Bool
  names : List String

namespace Reading

def start : Reading := ⟨[], [], [], false, []⟩

def push (r : Reading) (part : Expr) : Reading := { r with parts := part :: r.parts }

/-- The innermost group as one expression. -/
def body (r : Reading) : Expr :=
  let last := Expr.ofParts r.parts.reverse
  if r.branches.isEmpty then last else .alternation (r.branches.reverse ++ [last])

def openGroup (r : Reading) (kind : GroupKind) (verbose : Bool) : Reading :=
  { r with
    branches := [], parts := [], verbose
    outer := ⟨r.branches, r.parts, kind, r.verbose⟩ :: r.outer }

def closeGroup (r : Reading) : Except Fault Reading :=
  match r.outer with
  | [] => .error .unopenedGroup
  | g :: outer =>
    .ok { r with
      branches := g.branches, parts := .group g.kind r.body :: g.parts, verbose := g.verbose
      outer }

def alternate (r : Reading) : Reading :=
  { r with branches := Expr.ofParts r.parts.reverse :: r.branches, parts := [] }

/-- Repeats the last part, if there is one that can be repeated. -/
def repeatLast (r : Reading) (least : Nat) (most? : Option Nat) : Except Fault Reading :=
  match r.parts with
  | [] | .empty :: _ | .flags _ :: _ => .error .nothingToRepeat
  | part :: parts => .ok { r with parts := .repetition least most? part :: parts }

/-- One construct, given its first character. -/
def step (r : Reading) (c : Char) (cs : List Char) : Except Fault (Reading × List Char) :=
  let lazily (cs : List Char) : List Char :=
    match cs with
    | '?' :: rest => rest
    | cs => cs
  match c with
  | '(' => do
    let (opening, rest) ← openingOf r.verbose cs
    match opening with
    | .group kind =>
      let verbose := match kind with
        | .flagged items => (items.state? .ignoreBlanks).getD r.verbose
        | .capturing => r.verbose
      return (r.openGroup kind verbose, rest)
    | .named name =>
      if name ∈ r.names then .error (.duplicateGroupName name)
      else return ({ r with names := name :: r.names }.openGroup .capturing r.verbose, rest)
    | .flags items =>
      let verbose := (items.state? .ignoreBlanks).getD r.verbose
      return ({ r with verbose }.push (.flags items), rest)
  | ')' => return (← r.closeGroup, cs)
  | '|' => return (r.alternate, cs)
  | '[' => do
    let (cls, rest) ← classExpr r.verbose cs
    return (r.push cls, rest)
  | '?' => return (← r.repeatLast 0 (some 1), lazily cs)
  | '*' => return (← r.repeatLast 0 none, lazily cs)
  | '+' => return (← r.repeatLast 1 none, lazily cs)
  | '\x7b' => do
    let repeated := r.repeatLast 0 none
    let _ ← repeated
    let (least, most?, rest) ← bounds r.verbose cs
    return (← r.repeatLast least most?, rest)
  | '\\' => do
    let (e, rest) ← escape r.verbose cs
    return (r.push e, rest)
  | '.' => return (r.push .dot, cs)
  | '^' => return (r.push (.assertion .startLine), cs)
  | '$' => return (r.push (.assertion .endLine), cs)
  | c => return (r.push (.literal ⟨c, false⟩), cs)

def finish (r : Reading) : Except Fault Expr :=
  if r.outer.isEmpty then .ok r.body else .error .unclosedGroup

/-- Reads to the end; every construct takes at least one character. -/
def run : Nat → Reading → List Char → Except Fault Expr
  | fuel + 1, r, cs =>
    match skip r.verbose cs with
    | [] => r.finish
    | c :: cs => do
      let (r, cs) ← r.step c cs
      run fuel r cs
  | 0, _, _ => .error .tooDeep

end Reading

/-- How deep the constructs of a pattern may be nested. -/
def nestingLimit : Nat := 250

def Expr.parse (pattern : String) : Except Fault Expr := do
  let cs := pattern.toList
  let e ← Reading.start.run (cs.length + 1) cs
  if nestingLimit < e.depth then .error .tooDeep else .ok e

end Jadn.Pattern
