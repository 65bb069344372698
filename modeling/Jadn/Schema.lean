import Jadn.Info
import Jadn.Schema.Extensions

/-!
Schemas: what they say about themselves and the types they declare, in order.

`Schema.build` refuses definitions that do not go together and computes what validation looks
up: derived enumerations, the types of fields with their own options, and compiled patterns.

All tables are looked up by their keys alone, and the lists that stand for them have the order in
which their entries are made. Only the table of the types of fields is gone through once, when
patterns are compiled, and this in an order of its own.
-/

namespace Jadn

/-- The order in which a hash table hands out the definitions that it holds. Nothing determines it:
it may differ from one table to the next, even for the same definitions. -/
structure HashOrder where
  arrange : List TypeDefinition → List TypeDefinition
  perm (ds : List TypeDefinition) : (arrange ds).Perm ds

namespace HashOrder

/-- The order in which the definitions were put in. -/
def entered : HashOrder := ⟨id, fun _ => .refl _⟩

def reversed : HashOrder := ⟨List.reverse, List.reverse_perm⟩

/-- Some order, for programs that have to choose one. -/
instance : Inhabited HashOrder := ⟨reversed⟩

end HashOrder

structure Schema where
  info : Info
  types : List TypeDefinition
  limits : Limits
  /-- Derived enumerations, by name and by marked reference. -/
  extensions : Dict TypeDefinition
  /-- Types of fields that refine their types, by owner and field. -/
  fieldTypes : List ((String × String) × TypeDefinition)
  /-- The patterns of all definitions, by their text. -/
  patterns : Dict Pattern
  deriving Inhabited

/-- The nameless definition that the name of a base type without members stands for. -/
def builtin? (name : String) : Option TypeDefinition :=
  ((BaseType.ofName? name).filter fun base => !base.hasFields).map fun base =>
    .plain base base.name {}

/-- What a reference denotes: derived enumerations come before declared types, and these
before base types. -/
def resolve? (types : List TypeDefinition) (extensions : Dict TypeDefinition)
    (reference : String) : Option TypeDefinition :=
  extensions.lookup reference <|> declared? types reference <|> builtin? reference

namespace Schema

/-- The first name that stands a second time. -/
def repeatedName? (seen : List String) : List TypeDefinition → Option String
  | [] => none
  | d :: rest => if d.name ∈ seen then some d.name else repeatedName? (d.name :: seen) rest

def checkNamesDistinct (types : List TypeDefinition) : Except Error Unit :=
  match repeatedName? [] types with
  | some name => .error (.parse (.of (.duplicateType name)))
  | none => .ok ()

def checkExports (info : Info) (types : List TypeDefinition) : Except Error Unit :=
  match info.exports.find? fun name => (declared? types name).isNone with
  | some name => .error (.parse (.inPart (.undefinedExport name) "info.exports"))
  | none => .ok ()

/-- The types of the fields that have type options, these merged over what the field refers
to, in the order in which they are entered into their table. -/
def refinedFieldTypes (types : List TypeDefinition) (extensions : Dict TypeDefinition) :
    List ((String × String) × TypeDefinition) :=
  types.flatMap fun d => d.fields.filterMap fun f =>
    if f.options.hasTypeOptions then
      (resolve? types extensions f.typeRef).map fun base =>
        ((d.name, f.name), base.refined base.name f.options.typeOptions)
    else none

/-- Adds the pattern of a definition, unless it is there already. -/
def addPattern (table : Dict Pattern) (d : TypeDefinition) : Except Error (Dict Pattern) :=
  match d.options.pattern with
  | none => .ok table
  | some source =>
    if table.contains source then .ok table
    else match Pattern.compileAnchored source with
      | .ok pattern => .ok (table.insert source pattern)
      | .error fault =>
        .error (.parse ⟨.invalidPattern source, some d.name, some fault.message⟩)

def compiledPatterns (types : List TypeDefinition) : Except Error (Dict Pattern) :=
  types.foldlM addPattern []

/-- The patterns of declared definitions, and then those of the types of fields in the order that
their table has. It shows only in which of several invalid patterns is met first: what is compiled
is looked up by its text. -/
def patternTable (types refined : List TypeDefinition) (order : HashOrder) :
    Except Error (Dict Pattern) := do
  discard (compiledPatterns (types ++ order.arrange refined))
  compiledPatterns (types ++ refined)

def build (info : Info) (types : List TypeDefinition) (limits : Limits)
    (order : HashOrder := default) : Except Error Schema := do
  (limits.check .types types.length).mapError .limit
  checkNamesDistinct types
  checkExports info types
  let extensions ← Extensions.ofTypes types
  let fieldTypes := refinedFieldTypes types extensions
  let patterns ← patternTable types (fieldTypes.map Prod.snd) order
  return { info, types, limits, extensions, fieldTypes, patterns }

def new (info : Info) (types : List TypeDefinition) (order : HashOrder := default) :
    Except Error Schema :=
  build info types {} order

/-- Equality of what schemas say and declare, whatever the order of types and the limits. -/
def same (s t : Schema) : Bool :=
  s.info == t.info && s.types.length == t.types.length &&
    s.types.all fun d => declared? t.types d.name == some d

instance : BEq Schema := ⟨same⟩

def config (s : Schema) : Config := s.info.config

def typeNames (s : Schema) : List String := s.types.map (·.name)

/-- The definition declared under a name. -/
def get? (s : Schema) (name : String) : Option TypeDefinition := declared? s.types name

/-- The definition that validation uses for a reference. -/
def lookup? (s : Schema) (reference : String) : Option TypeDefinition :=
  resolve? s.types s.extensions reference

/-- The type of a field, with the type options of the field. -/
def fieldType? (s : Schema) (owner : String) (f : Field) : Option TypeDefinition :=
  s.fieldTypes.lookup (owner, f.name) <|> s.lookup? f.typeRef

/-- The enumeration of the fields of a declared type. -/
def enumerationOf (s : Schema) (name : String) : Except Error TypeDefinition :=
  match s.get? name with
  | some d => d.toEnumeration
  | none => .error (.type (.undefined name))

end Schema

end Jadn
