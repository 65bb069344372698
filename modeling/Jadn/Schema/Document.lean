import Jadn.Json.Reader
import Jadn.Schema

/-!
Schemas as documents: an object with the definitions under `types` and, unless it would be
empty, what the schema says about itself under `info`.
-/

namespace Jadn.Schema

def infoOfJson (document : Dict Json) : Except ParseError Info :=
  match document.lookup "info" with
  | none => .ok {}
  | some value =>
    match Info.ofJson? value with
    | some info => .ok info
    | none => .error ⟨.invalidInfo, some "info", some value.text⟩

/-- Puts the place of an entry in front of the place within it. -/
def locateEntry (index : Nat) (e : ParseError) : ParseError :=
  e.locatedAt <| match e.location with
    | some inner => s!"types[{index}] ({inner})"
    | none => s!"types[{index}]"

/-- The definitions of entries, numbered from the given place on. -/
def typesOfJson (index : Nat) : List Json → Except ParseError (List TypeDefinition)
  | [] => .ok []
  | entry :: entries => do
    let d ← (TypeDefinition.ofJson entry).mapError (locateEntry index)
    let rest ← typesOfJson (index + 1) entries
    return d :: rest

def partsOfJson (value : Json) : Except ParseError (Info × List TypeDefinition) := do
  let some document := value.obj? | .error (.of .schemaForm)
  let info ← infoOfJson document
  let some entries := (document.lookup "types").bind Json.arr? | .error (.of .typesNotArray)
  let types ← typesOfJson 0 entries
  return (info, types)

def ofJson (value : Json) (order : HashOrder := default) : Except Error Schema := do
  let (info, types) ← (partsOfJson value).mapError .parse
  new info types order

/-- The schema of a document given as JSON text. -/
def ofText (text : String) (order : HashOrder := default) : Except Error Schema :=
  match Json.read? text (some Json.documentNesting) with
  | some value => ofJson value order
  | none => .error .malformedJson

def toJson (s : Schema) : Json :=
  .obj (Json.Members.write "info" Info.toJson (Info.present? Info.isEmpty s.info) ++
    [("types", .arr (s.types.map TypeDefinition.toJson))])

end Jadn.Schema
