import Jadn.Pattern.CharSet

/-!
The syntax of patterns: regular expressions without references to groups and without
assertions about what lies ahead or behind.
-/

namespace Jadn.Pattern

inductive Flag where
  | caseInsensitive
  | multiLine
  | dotMatchesNewLine
  | swapGreed
  | unicode
  | crlf
  | ignoreBlanks
  deriving DecidableEq, Inhabited

/-- Flags in the order written: those after a negation are cleared. -/
structure FlagItems where
  on : List Flag
  off : List Flag
  deriving DecidableEq, Inhabited

/-- What the items say about a flag. -/
def FlagItems.state? (items : FlagItems) (flag : Flag) : Option Bool :=
  if flag ∈ items.on then some true
  else if flag ∈ items.off then some false
  else none

inductive Assertion where
  | startLine
  | endLine
  | startText
  | endText
  | wordBoundary
  | notWordBoundary
  | wordStart
  | wordEnd
  | wordStartHalf
  | wordEndHalf
  deriving DecidableEq, Inhabited

/-- A character, and whether it was written as two hexadecimal digits, which denote a byte
where characters are not meant. -/
structure Literal where
  char : Char
  isByte : Bool
  deriving DecidableEq, Inhabited

inductive PerlClass where
  | digit
  | space
  | word
  deriving DecidableEq, Inhabited

inductive AsciiClass where
  | alnum
  | alpha
  | ascii
  | blank
  | cntrl
  | digit
  | graph
  | lower
  | print
  | punct
  | space
  | upper
  | word
  | xdigit
  deriving DecidableEq, Inhabited

/-- The name of a property, or of a property and one of its values. -/
inductive PropertyQuery where
  | named (name : String)
  | valued (property value : String)
  deriving DecidableEq, Inhabited

inductive ClassOperator where
  | intersection
  | difference
  | symmetricDifference
  deriving DecidableEq, Inhabited

/-- What stands between brackets. -/
inductive ClassSet where
  | empty
  | literal (l : Literal)
  | range (low high : Literal)
  | ascii (negated : Bool) (cls : AsciiClass)
  | property (negated : Bool) (query : PropertyQuery)
  | perl (negated : Bool) (cls : PerlClass)
  | bracketed (negated : Bool) (set : ClassSet)
  | union (items : List ClassSet)
  | operation (op : ClassOperator) (lhs rhs : ClassSet)
  deriving Inhabited

inductive GroupKind where
  | capturing
  | flagged (items : FlagItems)
  deriving DecidableEq, Inhabited

inductive Expr where
  | empty
  /-- Flags for the rest of the group. -/
  | flags (items : FlagItems)
  | literal (l : Literal)
  | dot
  | assertion (kind : Assertion)
  | property (negated : Bool) (query : PropertyQuery)
  | perl (negated : Bool) (cls : PerlClass)
  | bracketed (negated : Bool) (set : ClassSet)
  /-- At least `least` and, if there is a bound, at most `most?` times. -/
  | repetition (least : Nat) (most? : Option Nat) (body : Expr)
  | group (kind : GroupKind) (body : Expr)
  | alternation (branches : List Expr)
  | concat (parts : List Expr)
  deriving Inhabited

namespace ClassSet

/-- One item stands for itself. -/
def ofItems : List ClassSet → ClassSet
  | [] => .empty
  | [item] => item
  | items => .union items

mutual

/-- How deep brackets, unions and operations are nested. -/
def depth : ClassSet → Nat
  | .bracketed _ set => depth set + 1
  | .union items => depthItems items + 1
  | .operation _ lhs rhs => max (depth lhs) (depth rhs) + 1
  | _ => 0

def depthItems : List ClassSet → Nat
  | [] => 0
  | item :: items => max (depth item) (depthItems items)

end

end ClassSet

namespace Expr

/-- One part stands for itself. -/
def ofParts : List Expr → Expr
  | [] => .empty
  | [part] => part
  | parts => .concat parts

mutual

/-- How deep groups, repetitions, alternations, concatenations and brackets are nested. -/
def depth : Expr → Nat
  | .bracketed _ set => set.depth + 1
  | .repetition _ _ body => depth body + 1
  | .group _ body => depth body + 1
  | .alternation branches => depthAll branches + 1
  | .concat parts => depthAll parts + 1
  | _ => 0

def depthAll : List Expr → Nat
  | [] => 0
  | e :: es => max (depth e) (depthAll es)

end

end Expr

/-- Why a text is no pattern. -/
inductive Fault where
  | unclosedGroup
  | unopenedGroup
  | unclosedClass
  | lookAround
  | groupName
  | duplicateGroupName (name : String)
  | flags
  | nothingToRepeat
  | repetitionCount
  | endOfEscape
  | unknownEscape (c : Char)
  | backreference
  | hexadecimal
  | wordBoundary
  | classEscape
  | classRange
  | unknownProperty
  | notUnicode
  | invalidUtf8
  | tooDeep
  | tooLarge
  deriving DecidableEq, Inhabited

def Fault.message : Fault → String
  | unclosedGroup => "unclosed group"
  | unopenedGroup => "unopened group"
  | unclosedClass => "unclosed character class"
  | lookAround => "look-around is not supported"
  | groupName => "invalid capture group name"
  | duplicateGroupName name => s!"duplicate capture group name '{name}'"
  | flags => "invalid flags"
  | nothingToRepeat => "repetition operator missing expression"
  | repetitionCount => "invalid repetition count"
  | endOfEscape => "incomplete escape sequence"
  | unknownEscape c => s!"unrecognized escape sequence '{c}'"
  | backreference => "backreferences are not supported"
  | hexadecimal => "invalid hexadecimal escape"
  | wordBoundary => "invalid special word boundary"
  | classEscape => "escape sequence not allowed in a character class"
  | classRange => "invalid character class range"
  | unknownProperty => "unknown property"
  | notUnicode => "character class needs the flag for characters"
  | invalidUtf8 => "pattern can match text that is not valid"
  | tooDeep => "nesting is too deep"
  | tooLarge => "compiled pattern is too large"

end Jadn.Pattern
