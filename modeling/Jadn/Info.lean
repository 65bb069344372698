import Jadn.Config
import Jadn.Namespaces

/-!
What a schema says about itself: its package, its texts, the namespaces it refers to, the
types it exports and its configuration.
-/

namespace Jadn

structure Info where
  package : String := ""
  version : Option String := none
  title : Option String := none
  description : Option String := none
  comment : Option String := none
  copyright : Option String := none
  license : Option String := none
  namespaces : Namespaces := {}
  exports : List String := []
  config : Config := {}
  /-- Members without a meaning here, in order. -/
  extra : Dict Json := []
  deriving Inhabited

namespace Info

def same (a b : Info) : Bool :=
  a.package == b.package && a.version == b.version && a.title == b.title &&
    a.description == b.description && a.comment == b.comment && a.copyright == b.copyright &&
    a.license == b.license && a.namespaces == b.namespaces && a.exports == b.exports &&
    a.config == b.config && Dict.sameBy Json.same a.extra b.extra

instance : BEq Info := ⟨same⟩

def ofPackage (package : String) : Info := { package }

def isEmpty (i : Info) : Bool := i == {}

def knownKeys : List String :=
  ["package", "version", "title", "description", "comment", "copyright", "license",
    "namespaces", "exports", "config"]

def exportsOfJson? (value : Json) : Option (List String) := do
  let items ← value.arr?
  items.mapM Json.str?

def ofJson? (value : Json) : Option Info := do
  let ms ← value.obj?
  let package ← Json.Members.withDefault? "" Json.str? ms "package"
  let version ← Json.Members.optional? Json.str? ms "version"
  let title ← Json.Members.optional? Json.str? ms "title"
  let description ← Json.Members.optional? Json.str? ms "description"
  let comment ← Json.Members.optional? Json.str? ms "comment"
  let copyright ← Json.Members.optional? Json.str? ms "copyright"
  let license ← Json.Members.optional? Json.str? ms "license"
  let namespaces ← Json.Members.withDefault? {} Namespaces.ofJson? ms "namespaces"
  let exports ← Json.Members.withDefault? [] exportsOfJson? ms "exports"
  let config ← Json.Members.withDefault? {} Config.ofJson? ms "config"
  let extra := Json.Members.others knownKeys ms
  return { package, version, title, description, comment, copyright, license, namespaces,
           exports, config, extra }

/-- A value that is written unless it is empty. -/
def present? {α : Type} (isEmpty : α → Bool) (value : α) : Option α :=
  if isEmpty value then none else some value

def toJson (i : Info) : Json :=
  .obj (Json.Members.write "package" Json.str (present? String.isEmpty i.package) ++
    Json.Members.write "version" Json.str i.version ++
    Json.Members.write "title" Json.str i.title ++
    Json.Members.write "description" Json.str i.description ++
    Json.Members.write "comment" Json.str i.comment ++
    Json.Members.write "copyright" Json.str i.copyright ++
    Json.Members.write "license" Json.str i.license ++
    Json.Members.write "namespaces" Namespaces.toJson (present? Namespaces.isEmpty i.namespaces) ++
    Json.Members.write "exports" Json.strings (present? List.isEmpty i.exports) ++
    Json.Members.write "config" Config.toJson (present? Config.isEmpty i.config) ++ i.extra)

end Info

end Jadn
