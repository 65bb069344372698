import Jadn.Expansion
import Jadn.Format

/-!
Validation of instances against the types of a schema.

The verbose form of an instance is walked from its root. At every node its shape and format
are checked first, then the presence of its members, then the members themselves and at last
their number. The first violation is reported, with the path that leads to it.
-/

namespace Jadn.Validation

abbrev Outcome := Except ValidationError Unit

/-- How to check an instance of a type one level further in. -/
abbrev Checker := TypeDefinition → Json → Outcome

/-- Puts a segment in front of the path of an error. -/
def under (segment : String) (outcome : Outcome) : Outcome :=
  outcome.mapError (·.under segment)

/-- Attributes the errors of a format to the type that asks for it. -/
def ofType {α : Type} (d : TypeDefinition) (result : Except ValidationError α) :
    Except ValidationError α :=
  result.mapError fun e => { e with typeName := some d.name }

def violation (d : TypeDefinition) (v : Violation) : ValidationError := .inType d.name v

/-- A violation with what was expected and what was found. -/
def contrast (d : TypeDefinition) (v : Violation) (expected actual : String) : ValidationError :=
  { violation d v with expected := some expected, actual := some actual }

/-- A violation by the given value. -/
def violationBy (d : TypeDefinition) (v : Violation) (actual : Json) : ValidationError :=
  { violation d v with actual := some actual.text }

/-- A violation at the given field or key. -/
def violationAt (d : TypeDefinition) (v : Violation) (field : String) : ValidationError :=
  { violation d v with field := some field }

/-- The error of a value that is not of the described form. -/
def notOfForm (d : TypeDefinition) (form : String) (actual : Json) : ValidationError :=
  violationBy d (.expected form) actual

section Bounds

/-- A bound that counts elements or characters, none unless it is positive. -/
def positive? (n : Option Int64) : Option Nat :=
  (n.filter (0 < ·)).map fun n => n.toInt.toNat

/-- A least count, zero where it is unset or negative. -/
def natural (n : Option Int64) : Nat := ((n.map Int64.toInt).getD 0).toNat

/-- Checks the length of a text or of octets, `limit` where the type sets no upper bound. -/
def checkLength (d : TypeDefinition) (length : Nat) (limit : Nat) (unit : String) : Outcome :=
  let least := natural d.options.minv
  let most := (positive? d.options.maxv).getD limit
  if length < least then
    .error (contrast d .tooShort s!">= {least} {unit}" (toString length))
  else if most < length then
    .error (contrast d .tooLong s!"<= {most} {unit}" (toString length))
  else .ok ()

def checkBounds (d : TypeDefinition) (count least most : Nat) : Outcome :=
  if count < least then
    .error (contrast d .tooFewElements s!">= {least}" (toString count))
  else if most < count then
    .error (contrast d .tooManyElements s!"<= {most}" (toString count))
  else .ok ()

/-- Checks the number of elements of a collection against the options of its type. -/
def checkSize (s : Schema) (d : TypeDefinition) (count : Nat) : Outcome :=
  checkBounds d count (natural d.options.minv)
    ((positive? d.options.maxv).getD s.config.elementLimit)

/-- Refuses collections beyond the limits of the schema. -/
def checkCollection (s : Schema) (d : TypeDefinition) (count : Nat) : Outcome :=
  match s.limits.check .collectionSize count with
  | .ok () => .ok ()
  | .error excess =>
    .error { violation d .collectionLimit with
      actual := some (toString count), reason := some (Error.limit excess).toText }

end Bounds

section Primitives

/-- The octets that a binary value gives as text or as an array of integers. -/
def octets (d : TypeDefinition) (value : Json) : Except ValidationError (List UInt8) :=
  match value with
  | .str text => ofType d (Format.decodeOctets d.options.format text)
  | .arr items =>
    match items.mapM fun item => (item.uint64?.filter (· ≤ 255)).map UInt64.toUInt8 with
    | some octets => .ok octets
    | none => .error (notOfForm d "an array of octets" value)
  | value => .error (notOfForm d "a binary string" value)

def checkBinary (s : Schema) (d : TypeDefinition) (value : Json) : Outcome := do
  let length := (← octets d value).length
  if let some format := d.options.format then
    ofType d (Format.checkLength format length)
  checkLength d length s.config.binaryLimit "octets"

def checkBoolean (d : TypeDefinition) : Json → Outcome
  | .bool _ => .ok ()
  | value => .error (notOfForm d "a boolean" value)

/-- Checks an integer against the range of the format of its type. -/
def checkRange (d : TypeDefinition) (n : Int) : Outcome :=
  match d.options.format with
  | some format => ofType d (Format.checkInteger format n)
  | none => .ok ()

def checkLeast (d : TypeDefinition) (n : Int) : Outcome :=
  match d.options.minv with
  | some least =>
    if n < least.toInt then
      .error (contrast d .belowMinimum s!">= {least.toInt}" (toString n))
    else .ok ()
  | none => .ok ()

/-- Checks an integer against the greatest value of its type; a value of zero is none. -/
def checkGreatest (d : TypeDefinition) (n : Int) : Outcome :=
  match d.options.maxv.filter (· ≠ 0) with
  | some most =>
    if most.toInt < n then
      .error (contrast d .aboveMaximum s!"<= {most.toInt}" (toString n))
    else .ok ()
  | none => .ok ()

def checkInteger (d : TypeDefinition) (value : Json) : Outcome := do
  let some n := value.integer? | .error (notOfForm d "an integer" value)
  checkRange d n
  checkLeast d n
  checkGreatest d n

def checkNumber (d : TypeDefinition) (value : Json) : Outcome := do
  let some x := value.number? | .error (notOfForm d "a number" value)
  if let some format := d.options.format then
    ofType d (Format.checkNumber format)
  if let some least := d.options.minf then
    if x.lt least then
      .error (contrast d .belowMinimum (">= " ++ least.toText .plain) (x.toText .plain))
  if let some most := d.options.maxf.filter (!·.isZero) then
    if most.lt x then
      .error (contrast d .aboveMaximum ("<= " ++ most.toText .plain) (x.toText .plain))

/-- The pattern of a definition; those of the schema are compiled already. -/
def pattern (s : Schema) (d : TypeDefinition) (source : String) :
    Except ValidationError Pattern :=
  match s.patterns.lookup source with
  | some p => .ok p
  | none =>
    match Pattern.compileAnchored source with
    | .ok p => .ok p
    | .error fault =>
      .error { violation d (.invalidPattern source) with reason := some fault.message }

def checkString (s : Schema) (d : TypeDefinition) (value : Json) : Outcome := do
  let some text := value.str? | .error (notOfForm d "a string" value)
  if let some format := d.options.format then
    ofType d (Format.checkString format text)
  if let some source := d.options.pattern then
    ofType d (Format.checkPattern (← pattern s d source) text)
  checkLength d text.length s.config.stringLimit "characters"

def checkEnumerated (d : TypeDefinition) (value : Json) : Outcome := do
  let isItem ← if d.options.byId then
      match value.int64? with
      | some id => .ok (d.items.any (·.id == id))
      | none => .error (notOfForm d "an item id" value)
    else
      match value.str? with
      | some text => .ok (d.items.any (·.value == text))
      | none => .error (notOfForm d "an item value" value)
  if isItem then .ok () else .error (violationBy d .undeclaredItem value)

end Primitives

section Fields

/-- Checks the value of a field; a field that may repeat takes an array of values. -/
def checkField (s : Schema) (inner : Checker) (owner : TypeDefinition) (f : Field)
    (value : Json) : Outcome := do
  let some d := s.fieldType? owner.name f
    | .error { ValidationError.undefinedType f.typeRef with field := some f.name }
  if !f.isRepeated then inner d value
  else
    let some values := value.arr?
      | .error { violationBy owner .repeatedFieldNotArray value with field := some f.name }
    let least := (max (f.minc false) 1).toNat
    let most := f.maxc?.getD s.config.elementLimit
    if values.length < least || most < values.length then
      .error { contrast owner .fieldCardinality s!"{least}..{most}" (toString values.length) with
        field := some f.name }
    else values.zipIdx.forM fun (v, i) => under (toString i) (inner d v)

/-- The key of a field in verbose objects. -/
def verboseKey (f : Field) (byId : Bool) : String :=
  if byId then toString f.id.toInt else f.name

def missingField (d : TypeDefinition) (f : Field) : ValidationError :=
  violationAt d .missingField f.name

def tooManyValues (d : TypeDefinition) (fields values : Nat) : ValidationError :=
  contrast d .tooManyValues s!"<= {fields}" (toString values)

/-- A value that is there and not null. -/
def present? (value : Option Json) : Option Json := value.filter (!·.isNull)

end Fields

section Choices

def checkChoice (s : Schema) (inner : Checker) (d : TypeDefinition) (value : Json) : Outcome :=
  let refused : Outcome := .error (notOfForm d "an object with one alternative" value)
  match value with
  | .str name => if (d.fieldNamed? name).isSome then .ok () else refused
  | .obj [(key, member)] =>
    match d.fieldOfKey? key with
    | some f => under key (checkField s inner d f member)
    | none => .error (violationAt d .unknownAlternative key)
  | .obj members =>
    .error (contrast d .oneAlternative "1" (toString members.length))
  | _ => refused

end Choices

section Structures

/-- The number of fields up to the last required one. -/
def lastRequired (fields : List Field) : Nat :=
  (fields.reverse.dropWhile (!·.isRequired)).length

/-- The array that a value stands for: that of a network, or the value itself. -/
def placesOf (d : TypeDefinition) (value : Json) : Except ValidationError Json :=
  match d.options.format with
  | some format => ofType d (Format.networkParts format value)
  | none => .ok value

/-- Checks the values of an array with a field for each place. -/
def checkPlaces (s : Schema) (inner : Checker) (d : TypeDefinition) (fields : List Field)
    (value : Json) : Outcome := do
  let some values := value.arr? | .error (notOfForm d "an array" value)
  if fields.length < values.length then
    .error (tooManyValues d fields.length values.length)
  fields.zipIdx.forM fun (f, i) =>
    if f.isRequired && (present? values[i]?).isNone then .error (missingField d f) else .ok ()
  (fields.zip values).forM fun (f, v) =>
    if v.isNull then .ok () else under f.name (checkField s inner d f v)
  let least := (d.options.minv.map fun n => n.toInt.toNat).getD (lastRequired fields)
  checkBounds d values.length least ((positive? d.options.maxv).getD fields.length)

def checkArray (s : Schema) (inner : Checker) (d : TypeDefinition) (fields : List Field)
    (value : Json) : Outcome := do
  checkPlaces s inner d fields (← placesOf d value)

/-- The type of the keys or values of a collection. -/
def partType (s : Schema) (d : TypeDefinition) (role : String) (reference : Option String) :
    Except ValidationError TypeDefinition :=
  match reference with
  | none => .error (violation d (.memberTypeUnset role))
  | some reference =>
    match s.lookup? reference with
    | some member => .ok member
    | none =>
      .error { violation d (.memberTypeUndefined role reference) with
        reason := some s!"unknown type '{reference}'" }

/-- The first element that equals one before it. -/
def repeated? (before : List Json) : List Json → Option Json
  | [] => none
  | v :: rest => if before.contains v then some v else repeated? (v :: before) rest

def checkArrayOf (s : Schema) (inner : Checker) (d : TypeDefinition) (value : Json) :
    Outcome := do
  let vtype ← partType s d "vtype" d.options.vtype
  let some values := value.arr? | .error (notOfForm d "an array" value)
  checkCollection s d values.length
  values.zipIdx.forM fun (v, i) => under (toString i) (inner vtype v)
  if d.options.isUnique then
    if let some v := repeated? [] values then
      .error (violationBy d .duplicateElement v)
  checkSize s d values.length

/-- The members of a map or of a record, which may also be an array of values in order. -/
def members (d : TypeDefinition) (value : Json) : Except ValidationError (Dict Json) :=
  match d.kind, value with
  | _, .obj members => .ok members
  | .record fields, .arr values =>
    if fields.length < values.length then
      .error (tooManyValues d fields.length values.length)
    else
      .ok ((fields.zip values).filterMap fun (f, v) =>
        if v.isNull then none else some (verboseKey f d.options.byId, v))
  | _, value => .error (notOfForm d "an object" value)

/-- Every key denotes a field that no key before it denotes, given the ids of those. -/
def checkKeys (d : TypeDefinition) (given : List Int64) : List String → Outcome
  | [] => .ok ()
  | key :: keys =>
    match d.fieldOfKey? key with
    | some f =>
      if f.id ∈ given then .error (violationAt d .repeatedMember key)
      else checkKeys d (f.id :: given) keys
    | none =>
      if d.options.extensible then checkKeys d given keys
      else .error (violationAt d .unknownField key)

def checkMap (s : Schema) (inner : Checker) (d : TypeDefinition) (value : Json) : Outcome := do
  let members ← members d value
  checkCollection s d members.length
  checkKeys d [] members.keys
  let member? (f : Field) : Option Json := present? (members.lookup (verboseKey f d.options.byId))
  d.fields.forM fun f =>
    if f.isRequired && (member? f).isNone then .error (missingField d f) else .ok ()
  d.fields.forM fun f =>
    match member? f with
    | some v => under (verboseKey f d.options.byId) (checkField s inner d f v)
    | none => .ok ()
  checkSize s d members.length

/-- The value that the key of an object stands for, a number where the type of keys is
numeric. -/
def valueOfKey (ktype : TypeDefinition) (key : String) : Json :=
  match ktype.baseType with
  | .integer => ((Numeral.int64? key).map Json.ofInt64).getD (.str key)
  | .number => ((Binary64.real? key).map Json.real).getD (.str key)
  | _ => .str key

/-- The pairs of a list of keys and values in turn. -/
def pairs? : List Json → Option (List (Json × Json))
  | [] => some []
  | [_] => none
  | key :: value :: rest => (pairs? rest).map ((key, value) :: ·)

def entries (d ktype : TypeDefinition) (value : Json) :
    Except ValidationError (List (Json × Json)) :=
  let refused := notOfForm d "an object or key/value array" value
  match value with
  | .obj members => .ok (members.map fun (key, v) => (valueOfKey ktype key, v))
  | .arr flat => (pairs? flat).elim (.error refused) .ok
  | _ => .error refused

/-- How a key is written in paths. -/
def keyText : Json → String
  | .str text => text
  | key => key.text

def checkMapOf (s : Schema) (inner : Checker) (d : TypeDefinition) (value : Json) :
    Outcome := do
  let ktype ← partType s d "ktype" d.options.ktype
  let vtype ← partType s d "vtype" d.options.vtype
  let entries ← entries d ktype value
  checkCollection s d entries.length
  entries.forM fun (key, v) => do
    under (keyText key) (inner ktype key)
    under (keyText key) (inner vtype v)
  checkSize s d entries.length

end Structures

/-- Checks one level of an instance. -/
def checkLevel (s : Schema) (inner : Checker) (d : TypeDefinition) (value : Json) : Outcome :=
  match d.kind with
  | .binary => checkBinary s d value
  | .boolean => checkBoolean d value
  | .integer => checkInteger d value
  | .number => checkNumber d value
  | .string => checkString s d value
  | .enumerated _ => checkEnumerated d value
  | .choice _ => checkChoice s inner d value
  | .array fields => checkArray s inner d fields value
  | .arrayOf => checkArrayOf s inner d value
  | .map _ | .record _ => checkMap s inner d value
  | .mapOf => checkMapOf s inner d value

/-- Checks an instance that may have so many levels. -/
def checkLevels (s : Schema) : Nat → Checker
  | 0, d, _ => .error (.tooDeep d.name s.limits.maxDepth)
  | levels + 1, d, value => checkLevel s (checkLevels s levels) d value

end Jadn.Validation

namespace Jadn.Schema

/-- Checks a verbose instance of a definition that stands at a depth. -/
def check (s : Schema) (d : TypeDefinition) (value : Json) (depth : Nat) : Validation.Outcome :=
  Validation.checkLevels s (s.limits.maxDepth + 1 - depth) d value

/-- Checks an instance of a named type, compact or verbose. -/
def validate (s : Schema) (typeName : String) (value : Json) : Validation.Outcome :=
  match s.lookup? typeName with
  | none => .error (.undefinedType typeName)
  | some d => Validation.under typeName (s.check d (d.expand s value) 0)

def isValid (s : Schema) (typeName : String) (value : Json) : Bool :=
  (s.validate typeName value).isOk

end Jadn.Schema
