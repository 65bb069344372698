import Jadn.Schema

/-!
Schemas with shorter descriptions.
-/

namespace Jadn

/-- The text if it has at most `width` characters, else its first ones and two points, which
count towards the width; nothing if the width is zero. -/
def truncate (width : Nat) (text : String) : String :=
  if width = 0 then ""
  else if text.length ≤ width then text
  else String.ofList (text.toList.take (width - 2)) ++ ".."

/-- Truncates every description; a width of zero removes them. -/
def Schema.truncateDescriptions (s : Schema) (width : Nat) (order : HashOrder := default) :
    Except Error Schema :=
  build s.info (s.types.map (TypeDefinition.mapDescriptions (truncate width))) s.limits order

end Jadn
