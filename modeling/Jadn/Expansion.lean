import Jadn.Schema

/-!
Verbose forms of instances.

A compact instance names fields by id, gives records as arrays of values and items of
enumerations by id; expansion writes names instead, at every level. Types whose members are
denoted by id keep their ids. What cannot be expanded stays as it is, and so does an object
that names one field twice.
-/

namespace Jadn.Expansion

/-- How to expand an instance of a type one level further in. -/
abbrev Expander := TypeDefinition → Json → Json

/-- Expands the value of a field, each of its values if it takes an array. -/
def expandField (s : Schema) (inner : Expander) (owner : TypeDefinition) (f : Field)
    (value : Json) : Json :=
  match s.fieldType? owner.name f with
  | none => value
  | some d =>
    match value with
    | .arr values => if f.isRepeated then .arr (values.map (inner d)) else inner d value
    | value => inner d value

/-- The name of the item with an id, or the value itself. -/
def expandItem (items : List Item) (value : Json) : Json :=
  match value.int64?.bind fun id => items.find? (·.id == id) with
  | some item => .str item.value
  | none => value

/-- Whether two keys denote one field. -/
def repeatsField (d : TypeDefinition) (members : Dict Json) : Bool :=
  let ids := members.filterMap fun (key, _) => (d.fieldOfKey? key).map Field.id
  !decide ids.Nodup

/-- The members of a record given by its values in order. -/
def expandValues (expand : Field → Json → Json) (fields : List Field) (values : List Json) :
    Dict Json :=
  (fields.zip values).filterMap fun (f, value) =>
    if value.isNull then none else some (f.name, expand f value)

/-- A member under the name of its field, or under its id where fields are denoted by id. -/
def expandMember (d : TypeDefinition) (expand : Field → Json → Json) :
    String × Json → String × Json
  | (key, value) =>
    match d.fieldOfKey? key with
    | some f => (if d.options.byId then key else f.name, expand f value)
    | none => (key, value)

/-- The values of an array with a field for each place, as far as there are fields. -/
def expandPlaces (expand : Field → Json → Json) : List Field → List Json → List Json
  | f :: fields, value :: values =>
    (if value.isNull then value else expand f value) :: expandPlaces expand fields values
  | _, values => values

/-- The type of the values of a collection. -/
def elementType? (s : Schema) (d : TypeDefinition) : Option TypeDefinition :=
  d.options.vtype.bind s.lookup?

/-- Expands one level of an instance. -/
def expandLevel (s : Schema) (inner : Expander) (d : TypeDefinition) (value : Json) : Json :=
  let byId := d.options.byId
  let expand := expandField s inner d
  let expandMembers (members : Dict Json) : Json :=
    if repeatsField d members then value else .obj (members.map (expandMember d expand))
  match d.kind, value with
  | .enumerated items, .int _ => if byId then value else expandItem items value
  | .record fields, .arr values =>
    if byId || fields.length < values.length then value
    else .obj (expandValues expand fields values)
  | .choice _, .obj members | .map _, .obj members | .record _, .obj members =>
    expandMembers members
  | .array fields, .arr values => .arr (expandPlaces expand fields values)
  | .arrayOf, .arr values =>
    match elementType? s d with
    | some v => .arr (values.map (inner v))
    | none => value
  | .mapOf, .obj members =>
    match elementType? s d with
    | some v => .obj (members.map fun (key, member) => (key, inner v member))
    | none => value
  | _, _ => value

/-- Expands so many levels of an instance. -/
def expandLevels (s : Schema) : Nat → Expander
  | 0, _, value => value
  | levels + 1, d, value => expandLevel s (expandLevels s levels) d value

end Jadn.Expansion

namespace Jadn

/-- The verbose form of an instance of a type, down to the greatest depth of the schema. -/
def TypeDefinition.expand (d : TypeDefinition) (s : Schema) (value : Json) : Json :=
  Expansion.expandLevels s (s.limits.maxDepth + 1) d value

/-- The verbose form of an instance of a named type. -/
def Schema.expand (s : Schema) (typeName : String) (value : Json) : Except ValidationError Json :=
  match s.lookup? typeName with
  | some d => .ok (d.expand s value)
  | none => .error (.undefinedType typeName)

end Jadn
