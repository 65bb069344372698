import Jadn.Schema

/-!
Schemas with derived enumerations written out.

Enumerations that take their items from another type get them listed. A reference marked as
derived becomes a reference to a new enumeration, which is added after all other types unless
a type of its name is declared.
-/

namespace Jadn.Schema

/-- The definitions added so far, in order. -/
abbrev Added := Dict TypeDefinition

/-- Adds a definition unless its name is declared or added already. -/
def addDefinition (s : Schema) (d : TypeDefinition) (added : Added) : Added :=
  if (s.get? d.name).isSome || added.contains d.name then added else added.insert d.name d

/-- The name for the enumeration derived from a type, which is added; what is not derived
keeps its marker. -/
def unfoldReference (s : Schema) (source : String) : StateM Added String := do
  match s.extensions.lookup (markedReference source) with
  | some d =>
    modify (s.addDefinition d)
    return d.name
  | none => return markedReference source

/-- A definition with its own items, if it takes them from elsewhere. -/
def withItems (s : Schema) (d : TypeDefinition) : TypeDefinition :=
  match s.extensions.lookup d.name with
  | some e => e.withOptions { e.options with enumeration := none, pointer := none }
  | none => d

def unfoldedTypes (s : Schema) : StateM Added (List TypeDefinition) :=
  s.types.mapM fun d => (s.withItems d).mapMarkedReferences s.unfoldReference

def unfold (s : Schema) (order : HashOrder := default) : Except Error Schema :=
  let (types, added) := s.unfoldedTypes.run []
  build s.info (types ++ added.values) s.limits order

end Jadn.Schema
