/-!
Errors of instance validation: which rule an instance breaks, in which type and field, and
the path that leads from the root of the instance to the failing node.
-/

namespace Jadn

/-- The families that the rules fall into. -/
inductive ValidationKind where
  | unknownType
  | constraint
  | shape
  | recursionLimitExceeded
  deriving DecidableEq, Inhabited

def ValidationKind.toText : ValidationKind → String
  | unknownType => "UnknownType"
  | constraint => "ConstraintError"
  | shape => "ShapeError"
  | recursionLimitExceeded => "RecursionLimitExceeded"

/-- A rule that an instance breaks. -/
inductive Violation where
  | undefinedType (name : String)
  | tooDeep (maxDepth : Nat)
  /-- The value is not of the described form. -/
  | expected (form : String)
  | oneAlternative
  | unknownAlternative
  | tooManyValues
  | repeatedMember
  | repeatedFieldNotArray
  | belowMinimum
  | aboveMaximum
  | tooShort
  | tooLong
  | undeclaredItem
  | duplicateElement
  | unknownField
  | missingField
  | fieldCardinality
  | tooFewElements
  | tooManyElements
  | collectionLimit
  /-- A collection type without its key or value type. -/
  | memberTypeUnset (role : String)
  | memberTypeUndefined (role reference : String)
  | invalidPattern (pattern : String)
  | patternMismatch
  | unknownFormat (format : String)
  | formatMismatch (format : String)
  | other (kind : ValidationKind) (message : String)
  deriving DecidableEq, Inhabited

namespace Violation

def kind : Violation → ValidationKind
  | undefinedType _ => .unknownType
  | tooDeep _ => .recursionLimitExceeded
  | expected _ | oneAlternative | unknownAlternative | tooManyValues | repeatedMember
  | repeatedFieldNotArray => .shape
  | other kind _ => kind
  | _ => .constraint

def message : Violation → String
  | undefinedType name => s!"type '{name}' is not defined in the schema"
  | tooDeep maxDepth => s!"maximum validation depth of {maxDepth} exceeded"
  | expected form => s!"expected {form}"
  | oneAlternative => "exactly one alternative must be present"
  | unknownAlternative => "unknown alternative"
  | tooManyValues => "too many values"
  | repeatedMember => "field given more than once"
  | repeatedFieldNotArray => "repeated field expects an array"
  | belowMinimum => "value is below minimum"
  | aboveMaximum => "value exceeds maximum"
  | tooShort => "length is below minimum"
  | tooLong => "length exceeds maximum"
  | undeclaredItem => "value is not a declared item"
  | duplicateElement => "duplicate element"
  | unknownField => "unknown field"
  | missingField => "missing required field"
  | fieldCardinality => "field cardinality violated"
  | tooFewElements => "too few elements"
  | tooManyElements => "too many elements"
  | collectionLimit => "collection exceeds hard limit"
  | memberTypeUnset role => s!"{role} is not set"
  | memberTypeUndefined role reference => s!"{role} '{reference}' is not defined"
  | invalidPattern pattern => s!"invalid pattern '{pattern}'"
  | patternMismatch => "value does not match pattern"
  | unknownFormat format => s!"unknown format '{format}'"
  | formatMismatch format => s!"value is not a valid {format}"
  | other _ message => message

end Violation

/-- A violation in its context; the path runs from the validated root to the failing node. -/
structure ValidationError where
  violation : Violation
  typeName : Option String := none
  field : Option String := none
  path : List String := []
  expected : Option String := none
  actual : Option String := none
  reason : Option String := none
  deriving DecidableEq, Inhabited

namespace ValidationError

def of (violation : Violation) : ValidationError :=
  ⟨violation, none, none, [], none, none, none⟩

/-- The violation of a rule of the named type. -/
def inType (typeName : String) (violation : Violation) : ValidationError :=
  { of violation with typeName := some typeName }

def undefinedType (name : String) : ValidationError := inType name (.undefinedType name)

def tooDeep (typeName : String) (maxDepth : Nat) : ValidationError :=
  inType typeName (.tooDeep maxDepth)

def kind (e : ValidationError) : ValidationKind := e.violation.kind

def message (e : ValidationError) : String := e.violation.message

/-- Puts a segment in front of the path. -/
def under (e : ValidationError) (segment : String) : ValidationError :=
  { e with path := segment :: e.path }

def pathText (e : ValidationError) : String := String.intercalate "/" e.path

def toText (e : ValidationError) : String :=
  let line (title : String) : Option String → String
    | some text => s!"\n\n{title}: {text}"
    | none => ""
  s!"{e.kind.toText}: {e.message}" ++
    line "Type" (e.typeName.map fun t => t ++ (e.field.map ("." ++ ·)).getD "") ++
    line "Expected" e.expected ++ line "Actual" e.actual ++ line "Reason" e.reason ++
    (if e.path.isEmpty then "" else s!"\n\nPath: {e.pathText}")

end ValidationError

end Jadn
