import Jadn.Json

/-!
Reading and writing objects of which some members are known by name.
-/

namespace Jadn.Json.Members

/-- A member that may be absent or null. -/
def optional? {α : Type} (read : Json → Option α) (ms : Dict Json) (key : String) :
    Option (Option α) :=
  match ms.lookup key with
  | none | some .null => some none
  | some v => (read v).map some

/-- A member that may be absent but not null. -/
def withDefault? {α : Type} (default : α) (read : Json → Option α) (ms : Dict Json)
    (key : String) : Option α :=
  match ms.lookup key with
  | none => some default
  | some v => read v

/-- The members with other names. -/
def others (known : List String) (ms : Dict Json) : Dict Json :=
  ms.filter fun (k, _) => !known.contains k

/-- A member for a value that is set. -/
def write {α : Type} (key : String) (toJson : α → Json) (value : Option α) : Dict Json :=
  (value.map fun v => (key, toJson v)).toList

end Jadn.Json.Members
