import Jadn.Schema

/-!
Checks of whole schemas that building one leaves out: that every reference leads somewhere,
and that names follow the patterns set by the configuration.
-/

namespace Jadn.Schema

/-- Whether a reference leads to a type, or into a declared namespace. -/
def isKnown (s : Schema) (reference : String) : Bool :=
  match Name.splitNamespace reference with
  | (some label, _) => (s.info.namespaces.package? label).isSome
  | (none, _) => (s.get? reference).isSome || (builtin? reference).isSome

/-- The references that lead nowhere, each once. -/
def danglingReferences (s : Schema) : List String :=
  (s.types.flatMap TypeDefinition.references).foldl
    (fun unknown r => if s.isKnown r || unknown.contains r then unknown else unknown ++ [r]) []

/-- Fails with the given fault when a pattern does not occur in a name. -/
def checkName (pattern name : String) (fault : Fault) : Except ParseError Unit := do
  if ← Name.fitsPattern pattern name then return ()
  else .error (.inText fault pattern)

def checkNamingOf (s : Schema) (d : TypeDefinition) : Except ParseError Unit := do
  checkName s.config.typePattern d.name (.invalidTypeName d.name)
  d.fields.forM fun f =>
    checkName s.config.fieldPattern f.name (.invalidFieldName d.name f.name)

/-- Checks the names of types, fields and namespaces, in this order. -/
def checkNaming (s : Schema) : Except ParseError Unit := do
  s.types.forM s.checkNamingOf
  s.info.namespaces.packages.forM fun (label, _) =>
    checkName s.config.namespacePattern label (.invalidNamespace label)

end Jadn.Schema
