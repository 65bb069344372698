import Jadn.Schema
import Jadn.Unicode.Uppercase

/-!
Imports: copying into a schema the definitions that its qualified references lead to.

References within a package are followed too, and all of them become references to local
names. A definition whose name is taken by a different one is renamed after the namespace it
was reached by, and a second collision is an error. Definitions are compared after their
references are settled, so equal ones also refer to equal types. An import that turns out
equal to an existing definition is dropped again, unless something imported in the meantime
refers to it by its new name.
-/

namespace Jadn

/-- A schema under the name by which others refer to it. -/
structure Package where
  name : String
  schema : Schema
  deriving Inhabited

/-- A package under the name that its schema gives. -/
def Package.ofSchema (schema : Schema) : Package := ⟨schema.info.package, schema⟩

namespace Import

/-- What an import starts from. -/
structure Sources where
  base : Schema
  packages : Dict Schema

/-- How far an import has come. -/
structure State where
  /-- Local names of the definitions met, by package and name. -/
  localNames : List ((String × String) × String) := []
  /-- Imported definitions under their local names, in the order of their discovery; none
  while the references of a definition are followed. -/
  imported : Dict (Option TypeDefinition) := []
  /-- The packages visited. -/
  visited : List String := []

abbrev Resolver := StateT State (Except ImportError)

namespace State

def setLocalName (st : State) (key : String × String) (name : String) : State :=
  { st with localNames := (key, name) :: st.localNames }

def setImported (st : State) (name : String) (d : Option TypeDefinition) : State :=
  { st with imported := st.imported.insert name d }

def eraseImported (st : State) (name : String) : State :=
  { st with imported := st.imported.erase name }

/-- Whether a definition of the base or an imported one has the name. -/
def isUsed (st : State) (base : Schema) (name : String) : Bool :=
  (base.get? name).isSome || st.imported.contains name

/-- Whether the finished definition of a name equals another, names apart. -/
def holdsSame (st : State) (base : Schema) (name : String) (d : TypeDefinition) : Bool :=
  match base.get? name <|> (st.imported.lookup name).join with
  | some existing => existing == d.renamed name
  | none => false

/-- Whether a definition imported after the first `start` ones refers to a name. -/
def refersTo (st : State) (start : Nat) (name : String) : Bool :=
  (st.imported.values.drop start).any fun d? => d?.any fun d => d.references.contains name

end State

def unresolved {α : Type} (label name : String) (chain : List String) : Resolver α :=
  throw (.unresolved (Name.qualify label name) chain)

/-- Notes the visit of a package, of which there are only so many. -/
def visit (src : Sources) (package : String) : Resolver Unit := do
  let st ← get
  if package ∈ st.visited then return ()
  else
    set { st with visited := package :: st.visited }
    match src.base.limits.check .packages (st.visited.length + 1) with
    | .ok () => return ()
    | .error excess => throw (.limitExceeded (Error.limit excess).toText)

/-- The definition that a name denotes in a package, and the schema of the package. -/
def locate (src : Sources) (package label name : String) (chain : List String) :
    Resolver (Schema × TypeDefinition) := do
  let some schema := src.packages.lookup package | unresolved label name chain
  visit src package
  let some d := schema.get? name | unresolved label name chain
  return (schema, d)

/-- The name that an import takes when its own one is taken. -/
def collisionName (label name : String) : String := Unicode.capitalize label ++ "-" ++ name

/-- Settles the local name of a definition whose own name was taken, its references being
settled under a provisional name. `isFresh` says that the provisional name was free, and
`start` counts the imports before it. -/
def settle (src : Sources) (package name provisional : String) (isFresh : Bool) (start : Nat)
    (d : TypeDefinition) : Resolver String := do
  let key := (package, name)
  let st ← get
  if !st.refersTo start provisional && st.holdsSame src.base name d then
    let st := if isFresh then st.eraseImported provisional else st
    set (st.setLocalName key name)
    return name
  else if isFresh then
    set (st.setImported provisional (some d))
    return provisional
  else if st.holdsSame src.base provisional d then
    set (st.setLocalName key provisional)
    return provisional
  else throw (.collision name package)

/-- Where a reference stands: in the base, or in a package that was reached by a label. -/
inductive Site where
  | base
  | within (schema : Schema) (package label : String)

/-- What a reference asks for. -/
inductive Request where
  /-- It stays as it is. -/
  | nothing
  | unknown
  | definition (package label name : String)

/-- What a reference of the base asks for, or nothing if it has no namespace. -/
def Sources.request (src : Sources) (reference : String) : Request :=
  match Name.splitNamespace reference with
  | (some label, name) =>
    match src.base.info.namespaces.package? label with
    | some package => .definition package label name
    | none => .unknown
  | (none, _) => .nothing

/-- What a reference within a package asks for; names of base types stay, and names of the
package itself keep its namespace. -/
def requestWithin (schema : Schema) (package label reference : String) : Request :=
  if (BaseType.ofName? reference).isSome then .nothing
  else match Name.splitNamespace reference with
    | (some inner, name) =>
      match schema.info.namespaces.package? inner with
      | some target => .definition target inner name
      | none => .unknown
    | (none, name) => .definition package label name

def Site.request (src : Sources) : Site → String → Request
  | .base => src.request
  | .within schema package label => requestWithin schema package label

/-- How to import what a name denotes in a package, given the namespace and the chain of
references that lead to it. -/
abbrev Importer := (package label name : String) → (chain : List String) → Resolver String

/-- The local name for a reference, given what it asks for. -/
def Request.answer (importer : Importer) (chain : List String) (reference : String) :
    Request → Resolver String
  | .nothing => return reference
  | .unknown => throw (.unresolved reference chain)
  | .definition package label name => importer package label name (chain ++ [reference])

/-- The local name for a reference that stands at a site. -/
def Site.localName (src : Sources) (importer : Importer) (site : Site) (chain : List String)
    (reference : String) : Resolver String :=
  (site.request src reference).answer importer chain reference

/-- The name under which the references of a definition are followed. -/
def provisional (base : Schema) (st : State) (label name : String) : String :=
  if st.isUsed base name then collisionName label name else name

/-- The state in which the references of a definition are followed: its local name is noted, and
it is entered under that name if the name was free. -/
def State.entered (st : State) (key : String × String) (name : String) (isFresh : Bool) : State :=
  if isFresh then (st.setLocalName key name).setImported name none else st.setLocalName key name

/-- Ends the import of a definition, its references being settled, given the state in which it was
located. -/
def conclude (src : Sources) (package label name : String) (located : State)
    (d : TypeDefinition) : Resolver String :=
  let provisional := provisional src.base located label name
  let d := d.renamed provisional
  if located.isUsed src.base name then
    settle src package name provisional (!located.isUsed src.base provisional)
      located.imported.length d
  else do
    modify (·.setImported provisional (some d))
    return provisional

/-- Imports the definition that a name denotes in a package and answers with its local name.

The local name is noted before the references of the definition are followed, so no
definition is followed twice, and imports nest no deeper than there are definitions. -/
def importName (src : Sources) : Nat → Importer
  | 0, _, label, name, chain => unresolved label name chain
  | fuel + 1, package, label, name, chain => do
    let key := (package, name)
    if let some known := (← get).localNames.lookup key then return known
    let (schema, source) ← locate src package label name chain
    let located ← get
    let provisional := provisional src.base located label name
    set (located.entered key provisional (!located.isUsed src.base provisional))
    let d ← source.mapReferences
      ((Site.within schema package label).localName src (importName src fuel) chain)
    conclude src package label name located d

/-- More than the number of definitions in all packages. -/
def Sources.fuel (src : Sources) : Nat :=
  (src.packages.values.flatMap Schema.types).length + 1

/-- The definitions of the base with local names for their references. -/
def baseTypes (src : Sources) : Resolver (List TypeDefinition) :=
  src.base.types.mapM fun d =>
    d.mapReferences (Site.base.localName src (importName src src.fuel) [d.name])

end Import

/-- The schema with everything that it refers to in the given packages, and without
namespaces. Of two packages of one name the later counts. -/
def Schema.importPackages (base : Schema) (packages : List Package)
    (order : HashOrder := default) : Except ImportError Schema := do
  if base.info.namespaces.isEmpty then throw .nothingToImport
  let src : Import.Sources := ⟨base, Dict.ofList (packages.map fun p => (p.name, p.schema))⟩
  let (types, st) ← (Import.baseTypes src).run {}
  let info := { base.info with namespaces := base.info.namespaces.clear }
  match Schema.build info (types ++ st.imported.values.filterMap id) base.limits order with
  | .ok s => return s
  | .error (.parse e) => throw (.invalidResult e)
  | .error e => throw (.invalidResult (.of (.other e.toText)))

end Jadn
