import Jadn.Error.Parse
import Jadn.Pattern
import Jadn.Text.Cut

/-!
Names of types, fields and namespaces, and references qualified by a namespace.

Each kind of name has a default pattern. A schema may set other patterns; the default ones
are decided without compiling them.
-/

namespace Jadn.Name

def defaultTypePattern : String := "^[A-Z][-$A-Za-z0-9]\x7b0,63\x7d$"

def defaultFieldPattern : String := "^[a-z][_A-Za-z0-9]\x7b0,63\x7d$"

def defaultNamespacePattern : String := "^[A-Za-z][A-Za-z0-9]\x7b0,7\x7d$"

/-- A first character and a bounded number of others. -/
def hasForm (first other : Char → Bool) (most : Nat) (name : String) : Bool :=
  match name.toList with
  | [] => false
  | c :: cs => first c && cs.length ≤ most && cs.all other

def isTypeName (name : String) : Bool :=
  hasForm Char.isUpper (fun c => c.isAlphanum || c = '-' || c = '$') 63 name

def isFieldName (name : String) : Bool :=
  hasForm Char.isLower (fun c => c.isAlphanum || c = '_') 63 name

def isNamespace (name : String) : Bool := hasForm Char.isAlpha Char.isAlphanum 7 name

/-- Whether a pattern occurs in a name; fails when it is no pattern. -/
def fitsPattern (pattern name : String) : Except ParseError Bool :=
  if pattern = defaultTypePattern then .ok (isTypeName name)
  else if pattern = defaultFieldPattern then .ok (isFieldName name)
  else if pattern = defaultNamespacePattern then .ok (isNamespace name)
  else match Pattern.compile pattern with
    | .ok p => .ok (p.occursIn name)
    | .error fault =>
      .error (.inText (.invalidNamePattern pattern) fault.message)

def checkTypeName (name : String) : Except ParseError Unit :=
  if isTypeName name then .ok () else .error (.of (.malformedTypeName name))

def checkFieldName (name : String) : Except ParseError Unit :=
  if isFieldName name then .ok () else .error (.of (.malformedFieldName name))

/-- The namespace of a reference, if it is qualified, and the name within it. -/
def splitNamespace (reference : String) : Option String × String :=
  match Text.cut? ':' reference with
  | some (label, name) => (some label, name)
  | none => (none, reference)

def isQualified (reference : String) : Bool := reference.toList.contains ':'

def qualify (label name : String) : String := label ++ ":" ++ name

end Jadn.Name
