/-!
Faults of schema documents: what is wrong with an option list, a member, a type entry or a
whole schema, where it was found and in which text.
-/

namespace Jadn

/-- The reason why a part of a document is refused. -/
inductive Fault where
  | emptyOption
  | duplicateOption (tag : Char)
  | flagWithValue
  | optionWithoutValue
  | optionNotInteger
  | optionNotReal
  | optionsNotArray
  | optionNotString (value : String)
  | fieldForm
  | itemForm
  | typeForm
  /-- A part, such as a field id, that has to be an integer. -/
  | notInteger (part : String)
  | notString (part : String)
  | notArray (part : String)
  | unknownBaseType (name : String)
  | fieldsNotAllowed (baseType : String)
  | duplicateFieldId (id : Int)
  | duplicateFieldName (name : String)
  | schemaForm
  | typesNotArray
  | invalidInfo
  | duplicateType (name : String)
  | undefinedExport (name : String)
  | invalidPattern (pattern : String)
  | invalidNamePattern (pattern : String)
  /-- A name that the default pattern refuses. -/
  | malformedTypeName (name : String)
  | malformedFieldName (name : String)
  /-- A name that the pattern set by the schema refuses. -/
  | invalidTypeName (name : String)
  | invalidFieldName (owner field : String)
  | invalidNamespace (label : String)
  | other (message : String)
  deriving DecidableEq, Inhabited

def Fault.message : Fault → String
  | emptyOption => "Empty option string"
  | duplicateOption tag => s!"Duplicate option '{tag}'"
  | flagWithValue => "Boolean option takes no value"
  | optionWithoutValue => "Option requires a value"
  | optionNotInteger => "Option requires an integer value"
  | optionNotReal => "Option requires a finite real value"
  | optionsNotArray => "Options must be an array of strings"
  | optionNotString value => s!"Option {value} is not a string"
  | fieldForm => "Field must be [id, name, type, options, description]"
  | itemForm => "Item must be [id, value, description]"
  | typeForm => "Type must be [name, base_type, options, description, fields?]"
  | notInteger part => s!"{part} must be an integer"
  | notString part => s!"{part} must be a string"
  | notArray part => s!"{part} must be an array"
  | unknownBaseType name => s!"Unknown base type '{name}'"
  | fieldsNotAllowed baseType => s!"{baseType} types cannot have fields"
  | duplicateFieldId id => s!"Duplicate field id {id}"
  | duplicateFieldName name => s!"Duplicate field name '{name}'"
  | schemaForm => "Schema must be an object with 'types'"
  | typesNotArray => "Schema 'types' must be an array"
  | invalidInfo => "Invalid schema info"
  | duplicateType name => s!"Duplicate type name '{name}'"
  | undefinedExport name => s!"Exported type '{name}' is not defined"
  | invalidPattern pattern => s!"Invalid pattern '{pattern}'"
  | invalidNamePattern pattern => s!"Invalid name pattern '{pattern}'"
  | malformedTypeName name => s!"Invalid type name: '{name}'"
  | malformedFieldName name => s!"Invalid field name: '{name}'"
  | invalidTypeName name => s!"Invalid type name '{name}'"
  | invalidFieldName owner field => s!"Invalid field name '{owner}.{field}'"
  | invalidNamespace label => s!"Invalid namespace prefix '{label}'"
  | other message => message

/-- A fault with the place it was found at and the text at fault, so far as they are known. -/
structure ParseError where
  fault : Fault
  location : Option String
  source : Option String
  deriving DecidableEq, Inhabited

namespace ParseError

def of (fault : Fault) : ParseError := ⟨fault, none, none⟩

/-- A fault of the given text. -/
def inText (fault : Fault) (source : String) : ParseError := ⟨fault, none, some source⟩

/-- A fault of the part at a location. -/
def inPart (fault : Fault) (location : String) : ParseError := ⟨fault, some location, none⟩

def message (e : ParseError) : String := e.fault.message

def locatedAt (e : ParseError) (location : String) : ParseError :=
  { e with location := some location }

def toText (e : ParseError) : String :=
  e.message ++
    (match e.location with
      | some location => s!"\n\nLocation: {location}"
      | none => "") ++
    (match e.source with
      | some source => s!"\n\nSource:\n{source}"
      | none => "")

end ParseError

end Jadn
