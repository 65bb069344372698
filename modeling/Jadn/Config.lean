import Jadn.Json.Members
import Jadn.Name

/-!
Schema-wide limits and name patterns.

Only values that are set are written. Members without a meaning here are kept in order and
written after the others.
-/

namespace Jadn

structure Config where
  maxBinary : Option UInt64 := none
  maxString : Option UInt64 := none
  maxElements : Option UInt64 := none
  /-- The character that generated names contain. -/
  sys : Option String := none
  typeName : Option String := none
  fieldName : Option String := none
  nsid : Option String := none
  extra : Dict Json := []
  deriving Inhabited

namespace Config

def same (a b : Config) : Bool :=
  a.maxBinary == b.maxBinary && a.maxString == b.maxString && a.maxElements == b.maxElements &&
    a.sys == b.sys && a.typeName == b.typeName && a.fieldName == b.fieldName &&
    a.nsid == b.nsid && Dict.sameBy Json.same a.extra b.extra

instance : BEq Config := ⟨same⟩

def isEmpty (c : Config) : Bool := c == {}

/-- The most octets of a binary value without a bound of its own. -/
def binaryLimit (c : Config) : Nat := (c.maxBinary.map UInt64.toNat).getD 255

/-- The most characters of a string without a bound of its own. -/
def stringLimit (c : Config) : Nat := (c.maxString.map UInt64.toNat).getD 255

/-- The most elements of a collection without a bound of its own. -/
def elementLimit (c : Config) : Nat := (c.maxElements.map UInt64.toNat).getD 100

def systemChar (c : Config) : String := c.sys.getD "$"

def typePattern (c : Config) : String := c.typeName.getD Name.defaultTypePattern

def fieldPattern (c : Config) : String := c.fieldName.getD Name.defaultFieldPattern

def namespacePattern (c : Config) : String := c.nsid.getD Name.defaultNamespacePattern

def knownKeys : List String :=
  ["$MaxBinary", "$MaxString", "$MaxElements", "$Sys", "$TypeName", "$FieldName", "$NSID"]

def ofJson? (value : Json) : Option Config := do
  let ms ← value.obj?
  let maxBinary ← Json.Members.optional? Json.uint64? ms "$MaxBinary"
  let maxString ← Json.Members.optional? Json.uint64? ms "$MaxString"
  let maxElements ← Json.Members.optional? Json.uint64? ms "$MaxElements"
  let sys ← Json.Members.optional? Json.str? ms "$Sys"
  let typeName ← Json.Members.optional? Json.str? ms "$TypeName"
  let fieldName ← Json.Members.optional? Json.str? ms "$FieldName"
  let nsid ← Json.Members.optional? Json.str? ms "$NSID"
  let extra := Json.Members.others knownKeys ms
  return { maxBinary, maxString, maxElements, sys, typeName, fieldName, nsid, extra }

def toJson (c : Config) : Json :=
  .obj (Json.Members.write "$MaxBinary" Json.ofUInt64 c.maxBinary ++
    Json.Members.write "$MaxString" Json.ofUInt64 c.maxString ++
    Json.Members.write "$MaxElements" Json.ofUInt64 c.maxElements ++
    Json.Members.write "$Sys" Json.str c.sys ++
    Json.Members.write "$TypeName" Json.str c.typeName ++
    Json.Members.write "$FieldName" Json.str c.fieldName ++
    Json.Members.write "$NSID" Json.str c.nsid ++ c.extra)

end Config

end Jadn
