import Jadn.Options

/-!
Fields of structures and choices, and items of enumerations.

A field is written `[id, name, type, options, description]` and an item
`[id, value, description]`; a description may be left out when read.
-/

namespace Jadn

structure Field where
  /-- The position of a field in an array or record, its tag elsewhere. -/
  id : Int64
  name : String
  /-- The type of the field: a base type, a declared type or a qualified reference. -/
  typeRef : String
  /-- Options of the field, and type options that refine its type. -/
  options : Options
  description : String
  deriving DecidableEq, BEq, Inhabited

structure Item where
  id : Int64
  value : String
  description : String
  deriving DecidableEq, Inhabited

/-- A string that is a part of a document entry. -/
def expectString (part : Json) (what : String) (whole : Json) : Except ParseError String :=
  match part.str? with
  | some s => .ok s
  | none => .error (.inText (.notString what) whole.text)

def expectId (part : Json) (what : String) (whole : Json) : Except ParseError Int64 :=
  match part.int64? with
  | some n => .ok n
  | none => .error (.inText (.notInteger what) whole.text)

namespace Field

def new (id : Int64) (name typeRef : String) : Field := ⟨id, name, typeRef, {}, ""⟩

def ofParts (whole id name typeRef options : Json) (description : Option Json) :
    Except ParseError Field := do
  let id ← expectId id "Field id" whole
  let name ← expectString name "Field name" whole
  let typeRef ← expectString typeRef "Field type" whole
  let options ← (Options.ofJson options).mapError (·.locatedAt s!"field '{name}'")
  let description ← match description with
    | some d => expectString d "Field description" whole
    | none => .ok ""
  return { id, name, typeRef, options, description }

def ofJson (value : Json) : Except ParseError Field :=
  match value with
  | .arr [id, name, typeRef, options] => ofParts value id name typeRef options none
  | .arr [id, name, typeRef, options, description] =>
    ofParts value id name typeRef options (some description)
  | _ => .error (.inText .fieldForm value.text)

def toJson (f : Field) : Json :=
  .arr [.ofInt64 f.id, .str f.name, .str f.typeRef, f.options.toJson, .str f.description]

/-- The fewest occurrences; an alternative of a choice need not occur. -/
def minc (f : Field) (inChoice : Bool) : Int :=
  match f.options.minc with
  | some n => n.toInt
  | none => if inChoice then 0 else 1

/-- The most occurrences, none when there is no bound. -/
def maxc? (f : Field) : Option Nat :=
  let bound : Int := match f.options.maxc with
    | some n => n.toInt
    | none => max ((f.options.minc.map Int64.toInt).getD 1) 1
  if bound ≤ 0 then none else some bound.toNat

def isRequired (f : Field) : Bool := 1 ≤ f.minc false

/-- Whether the field takes an array of values. -/
def isRepeated (f : Field) : Bool := f.maxc? != some 1

/-- Every reference that the field makes: its type, then those of its options. -/
def references (f : Field) : List String := f.typeRef :: f.options.references

def mapReferences {m : Type → Type _} [Monad m] (g : String → m String) (f : Field) :
    m Field := do
  let typeRef ← mapReference g f.typeRef
  let options ← f.options.mapReferences g
  pure { f with typeRef, options }

end Field

namespace Item

def ofParts (whole id value : Json) (description : Option Json) : Except ParseError Item := do
  let id ← expectId id "Item id" whole
  let value ← expectString value "Item value" whole
  let description ← match description with
    | some d => expectString d "Item description" whole
    | none => .ok ""
  return { id, value, description }

def ofJson (value : Json) : Except ParseError Item :=
  match value with
  | .arr [id, v] => ofParts value id v none
  | .arr [id, v, description] => ofParts value id v (some description)
  | _ => .error (.inText .itemForm value.text)

def toJson (i : Item) : Json := .arr [.ofInt64 i.id, .str i.value, .str i.description]

end Item

end Jadn
