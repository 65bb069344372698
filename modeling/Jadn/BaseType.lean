import Jadn.Error.Parse

/-!
The twelve base types: five primitives, two selectors and five structures.
-/

namespace Jadn

inductive BaseType where
  | binary
  | boolean
  | integer
  | number
  | string
  | enumerated
  | choice
  | array
  | arrayOf
  | map
  | mapOf
  | record
  deriving DecidableEq, Inhabited

namespace BaseType

def all : List BaseType :=
  [binary, boolean, integer, number, string, enumerated, choice, array, arrayOf, map, mapOf,
    record]

def name : BaseType → String
  | binary => "Binary"
  | boolean => "Boolean"
  | integer => "Integer"
  | number => "Number"
  | string => "String"
  | enumerated => "Enumerated"
  | choice => "Choice"
  | array => "Array"
  | arrayOf => "ArrayOf"
  | map => "Map"
  | mapOf => "MapOf"
  | record => "Record"

def ofName? (name : String) : Option BaseType := all.find? (·.name == name)

def ofName (name : String) : Except ParseError BaseType :=
  match ofName? name with
  | some base => .ok base
  | none => .error (.of (.unknownBaseType name))

def isPrimitive : BaseType → Bool
  | binary | boolean | integer | number | string => true
  | _ => false

def isSelector : BaseType → Bool
  | enumerated | choice => true
  | _ => false

def isStructure : BaseType → Bool
  | array | arrayOf | map | mapOf | record => true
  | _ => false

/-- Whether definitions of this type list fields or items. -/
def hasFields : BaseType → Bool
  | array | choice | enumerated | map | record => true
  | _ => false

@[simp] theorem ofName?_name (b : BaseType) : ofName? b.name = some b := by
  cases b <;> decide

theorem ofName?_eq_some_iff {s : String} {b : BaseType} : ofName? s = some b ↔ s = b.name := by
  constructor
  · intro h
    have := List.find?_some h
    simpa using (beq_iff_eq.mp this).symm
  · rintro rfl
    exact ofName?_name b

end BaseType

/-- Whether a reference names a primitive base type. -/
def isPrimitiveName (name : String) : Bool := (BaseType.ofName? name).any (·.isPrimitive)

end Jadn
