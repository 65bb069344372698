import Jadn.TypeDefinition

/-!
Enumerations that take their items from other types.

An enumeration lists the fields of a type, or the paths that lead through nested fields; and a
reference marked as derived denotes the enumeration of the fields of the type it names.
`extensions` collects them for a list of definitions, under their own names and under the
marked references.
-/

namespace Jadn

/-- The definition declared under a name. -/
def declared? (types : List TypeDefinition) (name : String) : Option TypeDefinition :=
  types.find? (·.name == name)

namespace Extensions

/-- The definition that the paths of a field go on into: one with fields, for a field that
qualifies them. -/
def nested? (types : List TypeDefinition) (f : Field) : Option TypeDefinition :=
  (declared? types f.typeRef).filter fun d => f.options.dir && d.hasFields && !d.isEnumeration

/-- The paths through the fields of a definition, with the descriptions of the fields they
end at. No path enters a definition twice, so none is longer than the list of definitions. -/
def paths (types : List TypeDefinition) :
    Nat → List String → TypeDefinition → List (String × String)
  | 0, _, _ => []
  | fuel + 1, entered, d =>
    if d.name ∈ entered then []
    else d.fields.flatMap fun f =>
      match nested? types f with
      | some inner =>
        (paths types fuel (d.name :: entered) inner).map fun (path, description) =>
          (f.name ++ "/" ++ path, description)
      | none => [(f.name, f.description)]

/-- The paths as items, numbered from one. -/
def pathItems (types : List TypeDefinition) (d : TypeDefinition) : List Item :=
  (paths types (types.length + 1) [] d).zipIdx.map fun ((path, description), i) =>
    ⟨Int64.ofNat (i + 1), path, description⟩

/-- The items that an enumeration takes from a declared type, if it takes any. -/
def items? (types : List TypeDefinition) (d : TypeDefinition) : Except Error (Option (List Item)) :=
  match d.kind, d.options.enumeration, d.options.pointer with
  | .enumerated _, some source, _ =>
    match declared? types (splitMarker source).2 with
    | some d => d.toEnumeration.map fun e => some e.items
    | none => .ok none
  | .enumerated _, none, some source =>
    .ok ((declared? types source).map (pathItems types))
  | _, _, _ => .ok none

/-- Adds an enumeration with the items that it takes from elsewhere. -/
def addOwn (types : List TypeDefinition) (table : Dict TypeDefinition) (d : TypeDefinition) :
    Except Error (Dict TypeDefinition) := do
  match ← items? types d with
  | some items =>
    let e ← (TypeDefinition.create d.name (.enumerated items) d.options d.description).mapError
      .parse
    return table.insert d.name e
  | none => return table

/-- Adds the enumeration that a marked reference denotes, unless it is there already. -/
def addReference (types : List TypeDefinition) (table : Dict TypeDefinition)
    (reference : String) : Except Error (Dict TypeDefinition) := do
  if table.contains reference then return table
  else match declared? types (splitMarker reference).2 with
    | some d => return table.insert reference (← d.toEnumeration)
    | none => return table

def addAll (types : List TypeDefinition) (table : Dict TypeDefinition) (d : TypeDefinition) :
    Except Error (Dict TypeDefinition) := do
  let table ← addOwn types table d
  d.markedReferences.foldlM (addReference types) table

/-- The derived enumerations of all definitions. -/
def ofTypes (types : List TypeDefinition) : Except Error (Dict TypeDefinition) :=
  types.foldlM (addAll types) []

end Extensions

end Jadn
