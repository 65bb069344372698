import Jadn.Pattern.CharSet
import Jadn.Pattern.Syntax
import Jadn.Unicode.Break
import Jadn.Unicode.CaseFolding
import Jadn.Unicode.Property
import Jadn.Unicode.Script

/-!
What a pattern matches, free of flags and of notation: sets of characters, places, sequences,
choices and repetitions.

`Expr.toNode` settles flags in the order in which they stand, up to the end of the group they
stand in, and refuses properties that do not exist and sets that leave the ASCII characters
where bytes are meant.
-/

namespace Jadn.Pattern

/-- A condition on a place between two characters. -/
inductive Place where
  | start
  | stop
  | lineStart (crlf : Bool)
  | lineEnd (crlf : Bool)
  | word (ascii : Bool) (kind : Assertion)
  deriving DecidableEq, Inhabited

inductive Node where
  | empty
  | chars (set : CharSet)
  | place (p : Place)
  | seq (first second : Node)
  | alt (first second : Node)
  | repetition (least : Nat) (most? : Option Nat) (body : Node)
  | group (body : Node)
  deriving Inhabited

structure Flags where
  caseInsensitive : Bool := false
  multiLine : Bool := false
  dotMatchesNewLine : Bool := false
  unicode : Bool := true
  crlf : Bool := false
  deriving DecidableEq, Inhabited

def Flags.set (value : Bool) (f : Flags) : Flag → Flags
  | .caseInsensitive => { f with caseInsensitive := value }
  | .multiLine => { f with multiLine := value }
  | .dotMatchesNewLine => { f with dotMatchesNewLine := value }
  | .unicode => { f with unicode := value }
  | .crlf => { f with crlf := value }
  | .swapGreed | .ignoreBlanks => f

def Flags.update (f : Flags) (items : FlagItems) : Flags :=
  items.off.foldl (Flags.set false) (items.on.foldl (Flags.set true) f)

section Sets

def ofPairs (pairs : List (Char × Char)) : CharSet :=
  .ofRanges (pairs.map fun (low, high) => (low.toNat, high.toNat))

def AsciiClass.set : AsciiClass → CharSet
  | alnum => ofPairs [('0', '9'), ('A', 'Z'), ('a', 'z')]
  | alpha => ofPairs [('A', 'Z'), ('a', 'z')]
  | ascii => ofPairs [('\x00', '\x7f')]
  | blank => ofPairs [('\t', '\t'), (' ', ' ')]
  | cntrl => ofPairs [('\x00', '\x1f'), ('\x7f', '\x7f')]
  | digit => ofPairs [('0', '9')]
  | graph => ofPairs [('!', '~')]
  | lower => ofPairs [('a', 'z')]
  | print => ofPairs [(' ', '~')]
  | punct => ofPairs [('!', '/'), (':', '@'), ('[', '\x60'), ('\x7b', '~')]
  | space => ofPairs [('\t', '\r'), (' ', ' ')]
  | upper => ofPairs [('A', 'Z')]
  | word => ofPairs [('0', '9'), ('A', 'Z'), ('_', '_'), ('a', 'z')]
  | xdigit => ofPairs [('0', '9'), ('A', 'F'), ('a', 'f')]

def PerlClass.asciiSet : PerlClass → CharSet
  | digit => AsciiClass.digit.set
  | space => AsciiClass.space.set
  | word => AsciiClass.word.set

def digitSet : CharSet := Unicode.Category.set [.decimalNumber]

def spaceSet : CharSet := Unicode.Property.whiteSpace ()

/-- Letters, marks, digits, connectors and the two joiners. -/
def wordSet : CharSet :=
  (Unicode.Property.alphabetic ()).union <|
    (Unicode.Category.set (.decimalNumber :: .connectorPunctuation :: Unicode.Category.mark)).union
      (Unicode.Property.joinControl ())

def PerlClass.unicodeSet : PerlClass → CharSet
  | digit => digitSet
  | space => spaceSet
  | word => wordSet

/-- Adds the letters of the other case, within ASCII. -/
def closeUnderAsciiCase (s : CharSet) : CharSet :=
  let others (low shift : Nat) : CharSet :=
    .ofRanges <| ((List.range 26).map (low + ·)).filterMap fun c =>
      if s.ranges.any fun (l, h) => l ≤ c && c ≤ h then
        some (c - low + shift, c - low + shift) else none
  (s.union (others 'A'.toNat 'a'.toNat)).union (others 'a'.toNat 'A'.toNat)

end Sets

section Properties

/-- The name of a property or value in lower case, without what does not distinguish names:
spaces, hyphens, low lines, and `is` in front. -/
def normalName (name : String) : String :=
  let cs := name.toList.map Char.toLower
  let (isStripped, cs) := match cs with
    | 'i' :: 's' :: rest => (true, rest)
    | cs => (false, cs)
  let kept := cs.filter fun c => c != ' ' && c != '-' && c != '_' && c.toNat < 0x80
  if isStripped && kept == ['c'] then "isc" else String.ofList kept

def categorySet? (name : String) : Option CharSet :=
  match name with
  | "any" => some .all
  | "assigned" => some (Unicode.Category.set [.unassigned]).complement
  | "ascii" => some AsciiClass.ascii.set
  | name => (Unicode.categories? name).map Unicode.Category.set

def namedSet? (name : String) : Option CharSet :=
  Unicode.property? name <|> categorySet? name <|> Unicode.Script.set? name

def valuedSet? (property value : String) : Option CharSet :=
  match property with
  | "gc" | "generalcategory" | "category" => categorySet? value
  | "sc" | "script" => Unicode.Script.set? value
  | "scx" | "scriptextensions" => Unicode.Script.extensionSet? value
  | "age" => Unicode.ageSet? value
  | "gcb" | "graphemeclusterbreak" => Unicode.graphemeSet? value
  | "wb" | "wordbreak" => Unicode.wordBreak.set? value
  | "sb" | "sentencebreak" => Unicode.sentenceBreak.set? value
  | _ => none

def PropertyQuery.set (q : PropertyQuery) : Except Fault CharSet :=
  let found := match q with
    | .named name => namedSet? (normalName name)
    | .valued property value => valuedSet? (normalName property) (normalName value)
  match found with
  | some s => .ok s
  | none => .error .unknownProperty

end Properties

namespace Flags

/-- Closes a set under case where case is ignored. -/
def fold (f : Flags) (s : CharSet) : CharSet :=
  if !f.caseInsensitive then s
  else if f.unicode then Unicode.closeUnderCase s
  else closeUnderAsciiCase s

/-- A class after folding and negation; where bytes are meant it holds ASCII only. -/
def close (f : Flags) (negated : Bool) (s : CharSet) : Except Fault CharSet :=
  let s := f.fold s
  let s := if negated then s.complement else s
  if !f.unicode && !s.isAscii then .error .invalidUtf8 else .ok s

def perl (f : Flags) (negated : Bool) (cls : PerlClass) : Except Fault CharSet :=
  let s := if f.unicode then cls.unicodeSet else cls.asciiSet
  let s := if negated then s.complement else s
  if !f.unicode && !s.isAscii then .error .invalidUtf8 else .ok s

def property (f : Flags) (negated : Bool) (q : PropertyQuery) : Except Fault CharSet :=
  if !f.unicode then .error .notUnicode
  else do
    let s ← q.set
    f.close negated s

/-- A character of a pattern; a byte above ASCII is no character. -/
def literal (f : Flags) (l : Literal) : Except Fault Char :=
  if !f.unicode && l.isByte && 0x80 ≤ l.char.toNat then .error .invalidUtf8 else .ok l.char

def classLiteral (f : Flags) (l : Literal) : Except Fault Char := do
  let c ← f.literal l
  if !f.unicode && 0x80 ≤ c.toNat then .error .notUnicode else .ok c

mutual

def classSet (f : Flags) : ClassSet → Except Fault CharSet
  | .empty => .ok .empty
  | .literal l => do
    let c ← f.classLiteral l
    .ok (.singleton c)
  | .range low high => do
    let low ← f.classLiteral low
    let high ← f.classLiteral high
    .ok (.range low high)
  | .ascii negated cls => f.close negated cls.set
  | .property negated query => f.property negated query
  | .perl negated cls => f.perl negated cls
  | .bracketed negated set => do
    let s ← classSet f set
    f.close negated s
  | .union items => classUnion f items
  | .operation op lhs rhs => do
    let l ← classSet f lhs
    let r ← classSet f rhs
    let l := f.fold l
    let r := f.fold r
    .ok (match op with
      | .intersection => l.inter r
      | .difference => l.diff r
      | .symmetricDifference => l.symmDiff r)

def classUnion (f : Flags) : List ClassSet → Except Fault CharSet
  | [] => .ok .empty
  | item :: items => do
    let s ← classSet f item
    let rest ← classUnion f items
    .ok (s.union rest)

end

def place (f : Flags) : Assertion → Place
  | .startLine => if f.multiLine then .lineStart f.crlf else .start
  | .endLine => if f.multiLine then .lineEnd f.crlf else .stop
  | .startText => .start
  | .endText => .stop
  | kind => .word (!f.unicode) kind

def dot (f : Flags) : Except Fault CharSet :=
  if !f.unicode then .error .invalidUtf8
  else if f.dotMatchesNewLine then .ok .all
  else if f.crlf then .ok (ofPairs [('\n', '\n'), ('\r', '\r')]).complement
  else .ok (CharSet.singleton '\n').complement

end Flags

mutual

/-- The meaning of an expression under the flags in force, and the flags after it. -/
def Expr.node (f : Flags) : Expr → Except Fault (Node × Flags)
  | .empty => .ok (.empty, f)
  | .flags items => .ok (.empty, f.update items)
  | .literal l => do
    let c ← f.literal l
    let s := CharSet.singleton c
    .ok (.chars (f.fold s), f)
  | .dot => do
    let s ← f.dot
    .ok (.chars s, f)
  | .assertion kind => .ok (.place (f.place kind), f)
  | .property negated query => do
    let s ← f.property negated query
    .ok (.chars s, f)
  | .perl negated cls => do
    let s ← f.perl negated cls
    .ok (.chars s, f)
  | .bracketed negated set => do
    let s ← f.classSet set
    let s ← f.close negated s
    .ok (.chars s, f)
  | .repetition least most? body => do
    let (n, f) ← Expr.node f body
    .ok (.repetition least most? n, f)
  | .group kind body => do
    let inner := match kind with
      | .capturing => f
      | .flagged items => f.update items
    let (n, _) ← Expr.node inner body
    .ok (match kind with
      | .capturing => .group n
      | .flagged _ => n, f)
  | .alternation branches => Expr.altNodes f branches
  | .concat parts => Expr.seqNodes f parts

def Expr.altNodes (f : Flags) : List Expr → Except Fault (Node × Flags)
  | [] => .ok (.empty, f)
  | [e] => Expr.node f e
  | e :: es => do
    let (n, f) ← Expr.node f e
    let (rest, f) ← Expr.altNodes f es
    .ok (.alt n rest, f)

def Expr.seqNodes (f : Flags) : List Expr → Except Fault (Node × Flags)
  | [] => .ok (.empty, f)
  | [e] => Expr.node f e
  | e :: es => do
    let (n, f) ← Expr.node f e
    let (rest, f) ← Expr.seqNodes f es
    .ok (.seq n rest, f)

end

def Expr.toNode (e : Expr) : Except Fault Node := (e.node {}).map Prod.fst

end Jadn.Pattern
