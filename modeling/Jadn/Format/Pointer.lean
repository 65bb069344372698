import Jadn.Numeral

/-!
Pointers into JSON values, and templates of resource identifiers.
-/

namespace Jadn.Format.Pointer

/-- Every tilde is followed by one of the two digits that make an escape of it. -/
def isEscaped : List Char → Bool
  | '~' :: c :: cs => (c == '0' || c == '1') && isEscaped cs
  | '~' :: [] => false
  | _ :: cs => isEscaped cs
  | [] => true

/-- Nothing, or tokens that each follow a slash. -/
def isPointer : List Char → Bool
  | [] => true
  | '/' :: cs => isEscaped cs
  | _ => false

/-- A number of levels, without leading zeros, and a pointer or the sign for a key. -/
def isRelative (cs : List Char) : Bool :=
  let digits := cs.takeWhile Numeral.isDigit
  let rest := cs.dropWhile Numeral.isDigit
  match digits with
  | [] => false
  | '0' :: more =>
    -- a zero stands alone
    more.isEmpty && (rest == ['#'] || isPointer rest)
  | _ => rest == ['#'] || isPointer rest

def isVariableChar (c : Char) : Bool := c.isAlphanum || "_.%,:*".toList.contains c

def isOperator (c : Char) : Bool := "+#./;?&=,!@|".toList.contains c

/-- Variables, after an operator if there is one. -/
def isExpression (cs : List Char) : Bool :=
  (!cs.isEmpty && cs.all isVariableChar) ||
    match cs with
    | c :: rest => isOperator c && !rest.isEmpty && rest.all isVariableChar
    | [] => false

/-- Text with expressions in braces, given the expression that is open, last character
first. -/
def isTemplateFrom : Option (List Char) → List Char → Bool
  | none, [] => true
  | some _, [] => false
  | none, c :: cs =>
    if c = '\x7b' then isTemplateFrom (some []) cs
    else c != '\x7d' && isTemplateFrom none cs
  | some inner, c :: cs =>
    if c = '\x7d' then isExpression inner.reverse && isTemplateFrom none cs
    else c != '\x7b' && isTemplateFrom (some (c :: inner)) cs

def isTemplate (cs : List Char) : Bool := isTemplateFrom none cs

end Jadn.Format.Pointer
