import Jadn.BaseType
import Jadn.Error
import Jadn.Field

/-!
Type definitions: a name, options, a description, and what its kind adds, which is a list of
items for enumerations and a list of fields for choices, arrays, maps and records.

A definition is written `[name, base type, options, description, members]`, without members
where its kind has none and where an enumeration takes them from another type.
-/

namespace Jadn

inductive Kind where
  | binary
  | boolean
  | integer
  | number
  | string
  | enumerated (items : List Item)
  | choice (fields : List Field)
  | array (fields : List Field)
  | arrayOf
  | map (fields : List Field)
  | mapOf
  | record (fields : List Field)
  deriving DecidableEq, BEq, Inhabited

namespace Kind

def baseType : Kind → BaseType
  | binary => .binary
  | boolean => .boolean
  | integer => .integer
  | number => .number
  | string => .string
  | enumerated _ => .enumerated
  | choice _ => .choice
  | array _ => .array
  | arrayOf => .arrayOf
  | map _ => .map
  | mapOf => .mapOf
  | record _ => .record

/-- The kind of a base type, without any members. -/
def ofBaseType : BaseType → Kind
  | .binary => binary
  | .boolean => boolean
  | .integer => integer
  | .number => number
  | .string => string
  | .enumerated => enumerated []
  | .choice => choice []
  | .array => array []
  | .arrayOf => arrayOf
  | .map => map []
  | .mapOf => mapOf
  | .record => record []

def fields : Kind → List Field
  | choice fields | array fields | map fields | record fields => fields
  | _ => []

def items : Kind → List Item
  | enumerated items => items
  | _ => []

/-- Replaces the fields, where there are any. -/
def mapFields {m : Type → Type _} [Monad m] (f : Field → m Field) : Kind → m Kind
  | choice fields => choice <$> fields.mapM f
  | array fields => array <$> fields.mapM f
  | map fields => map <$> fields.mapM f
  | record fields => record <$> fields.mapM f
  | kind => pure kind

end Kind

structure TypeDefinition where
  name : String
  options : Options
  description : String
  kind : Kind
  deriving DecidableEq, BEq, Inhabited

namespace TypeDefinition

def baseType (d : TypeDefinition) : BaseType := d.kind.baseType

def fields (d : TypeDefinition) : List Field := d.kind.fields

def items (d : TypeDefinition) : List Item := d.kind.items

/-- The ids and names of the items or fields. -/
def memberKeys (d : TypeDefinition) : List (Int64 × String) :=
  match d.kind with
  | .enumerated items => items.map fun i => (i.id, i.value)
  | kind => kind.fields.map fun f => (f.id, f.name)

/-- The first member whose id, or else name, occurred before. -/
def duplicate? (ids : List Int64) (names : List String) :
    List (Int64 × String) → Option Fault
  | [] => none
  | (id, name) :: rest =>
    if id ∈ ids then some (.duplicateFieldId id.toInt)
    else if name ∈ names then some (.duplicateFieldName name)
    else duplicate? (id :: ids) (name :: names) rest

/-- A definition whose members have distinct ids and distinct names. -/
def create (name : String) (kind : Kind) (options : Options) (description : String) :
    Except ParseError TypeDefinition :=
  let d : TypeDefinition := ⟨name, options, description, kind⟩
  match duplicate? [] [] d.memberKeys with
  | some fault => .error (.inPart fault name)
  | none => .ok d

/-- A definition without members. -/
def plain (base : BaseType) (name : String) (options : Options) : TypeDefinition :=
  ⟨name, options, "", .ofBaseType base⟩

section Reading

def locate {α : Type} (name : String) (result : Except ParseError α) : Except ParseError α :=
  result.mapError (·.locatedAt name)

/-- The kind of an entry, its members read according to the base type. -/
def kindOfJson (base : BaseType) (members : List Json) : Except ParseError Kind :=
  match base with
  | .enumerated => .enumerated <$> members.mapM Item.ofJson
  | .choice => .choice <$> members.mapM Field.ofJson
  | .array => .array <$> members.mapM Field.ofJson
  | .map => .map <$> members.mapM Field.ofJson
  | .record => .record <$> members.mapM Field.ofJson
  | base => .ok (.ofBaseType base)

def ofParts (name base options description : Json) (members : Option Json) :
    Except ParseError TypeDefinition := do
  let some name := name.str? | .error (.of (.notString "Type name"))
  let some base := base.str? | .error (.of (.notString "Base type"))
  let base ← locate name (BaseType.ofName base)
  let options ← locate name (Options.ofJson options)
  let some description := description.str?
    | .error (.inPart (.notString "Type description") name)
  let some members := (members.getD (.arr [])).arr?
    | .error (.inPart (.notArray "Type fields") name)
  if !base.hasFields && !members.isEmpty then
    .error (.inPart (.fieldsNotAllowed base.name) name)
  else
    let kind ← locate name (kindOfJson base members)
    create name kind options description

def ofJson (value : Json) : Except ParseError TypeDefinition :=
  match value with
  | .arr [name, base, options, description] => ofParts name base options description none
  | .arr [name, base, options, description, members] =>
    ofParts name base options description (some members)
  | _ => .error (.inText .typeForm value.text)

end Reading

def isEnumeration (d : TypeDefinition) : Bool := d.baseType == .enumerated

/-- Whether the items of an enumeration come from another type. -/
def hasForeignItems (d : TypeDefinition) : Bool :=
  d.isEnumeration && (d.options.enumeration.isSome || d.options.pointer.isSome)

def isSelector (d : TypeDefinition) : Bool := d.baseType.isSelector

def isStructure (d : TypeDefinition) : Bool := d.baseType.isStructure

def isPrimitive (d : TypeDefinition) : Bool := d.baseType.isPrimitive

def hasFields (d : TypeDefinition) : Bool := d.baseType.hasFields

/-- The members part of the written form, if there is one. -/
def membersToJson? (d : TypeDefinition) : Option Json :=
  match d.kind with
  | .enumerated items =>
    if items.isEmpty && d.hasForeignItems then none else some (.arr (items.map Item.toJson))
  | .choice fields | .array fields | .map fields | .record fields =>
    some (.arr (fields.map Field.toJson))
  | _ => none

def toJson (d : TypeDefinition) : Json :=
  .arr ([.str d.name, .str d.baseType.name, d.options.toJson, .str d.description] ++
    d.membersToJson?.toList)

def fieldNamed? (d : TypeDefinition) (name : String) : Option Field :=
  d.fields.find? (·.name == name)

def fieldWithId? (d : TypeDefinition) (id : Int64) : Option Field :=
  d.fields.find? (·.id == id)

/-- The field that a key denotes: by name first and by id second, or only by id where fields
are denoted by id. -/
def fieldOfKey? (d : TypeDefinition) (key : String) : Option Field :=
  let byId := (Numeral.int64? key).bind d.fieldWithId?
  if d.options.byId then byId else d.fieldNamed? key <|> byId

def renamed (d : TypeDefinition) (name : String) : TypeDefinition := { d with name }

def withOptions (d : TypeDefinition) (options : Options) : TypeDefinition := { d with options }

/-- The definition under a name, with options merged over its own. -/
def refined (d : TypeDefinition) (name : String) (overlay : Options) :
    TypeDefinition :=
  { d with name, options := d.options.merge overlay }

/-- Replaces the descriptions of the definition and of its members. -/
def mapDescriptions (f : String → String) (d : TypeDefinition) : TypeDefinition :=
  let mapFields (fields : List Field) : List Field :=
    fields.map fun field => { field with description := f field.description }
  { d with
    description := f d.description
    kind := match d.kind with
      | .enumerated items =>
        .enumerated (items.map fun item => { item with description := f item.description })
      | .choice fields => .choice (mapFields fields)
      | .array fields => .array (mapFields fields)
      | .map fields => .map (mapFields fields)
      | .record fields => .record (mapFields fields)
      | kind => kind }

/-- Every type referred to, by options and by fields; the types of fields keep their markers of
derivation. -/
def references (d : TypeDefinition) : List String :=
  d.options.references ++ d.fields.flatMap Field.references

/-- Replaces every reference to a type, in the order of `references` and without the markers
of derivation, which are kept. -/
def mapReferences {m : Type → Type _} [Monad m] (f : String → m String) (d : TypeDefinition) :
    m TypeDefinition := do
  let options ← d.options.mapReferences f
  let kind ← d.kind.mapFields (Field.mapReferences f)
  pure { d with options, kind }

/-- Replaces a reference that is marked as derived, marker included. -/
def mapMarkedReference {m : Type → Type _} [Monad m] (f : String → m String)
    (reference : String) : m String :=
  match splitMarker reference with
  | (true, name) => f name
  | (false, _) => pure reference

/-- Replaces the references marked as derived that stand as key or value types. -/
def mapMarkedInOptions {m : Type → Type _} [Monad m] (f : String → m String) (o : Options) :
    m Options := do
  let vtype ← o.vtype.mapM (mapMarkedReference f)
  let ktype ← o.ktype.mapM (mapMarkedReference f)
  pure { o with vtype, ktype }

def mapMarkedInField {m : Type → Type _} [Monad m] (f : String → m String) (field : Field) :
    m Field := do
  let typeRef ← mapMarkedReference f field.typeRef
  let options ← mapMarkedInOptions f field.options
  pure { field with typeRef, options }

/-- Replaces the references marked as derived that stand as key, value or field types. -/
def mapMarkedReferences {m : Type → Type _} [Monad m] (f : String → m String)
    (d : TypeDefinition) : m TypeDefinition := do
  let options ← mapMarkedInOptions f d.options
  let kind ← d.kind.mapFields (mapMarkedInField f)
  pure { d with options, kind }

/-- The references marked as derived, markers included, in the order in which they stand. -/
def markedReferences (d : TypeDefinition) : List String :=
  let ofOptions (o : Options) : List String := o.vtype.toList ++ o.ktype.toList
  (ofOptions d.options ++ d.fields.flatMap fun f => f.typeRef :: ofOptions f.options).filter
    fun r => (splitMarker r).1

/-- The name of the enumeration derived from a type. -/
def enumerationName (name : String) : String := "Enum-" ++ name

/-- The enumeration of the fields of a definition; an enumeration stands for itself. -/
def toEnumeration (d : TypeDefinition) : Except Error TypeDefinition :=
  match d.kind with
  | .enumerated _ => .ok d
  | .choice fields | .array fields | .map fields | .record fields =>
    let items := fields.map fun f => ⟨f.id, f.name, f.description⟩
    (create (enumerationName d.name) (.enumerated items) { byId := d.options.byId }
      s!"Derived Enumerated from {d.name}").mapError .parse
  | _ => .error (.type (.notEnumerable d.name))

end TypeDefinition

end Jadn
