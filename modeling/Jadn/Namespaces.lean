import Jadn.Json

/-!
The namespaces that a schema declares: labels for the packages it refers to, in order.

They are written as an object or as a list of pairs, and are written back as they were read;
the form has no part in equality.
-/

namespace Jadn

structure Namespaces where
  packages : Dict String := []
  /-- Whether they are written as pairs. -/
  asPairs : Bool := false
  deriving DecidableEq, Inhabited

namespace Namespaces

/-- Equality up to order and form. -/
def same (a b : Namespaces) : Bool := Dict.sameBy (· == ·) a.packages b.packages

instance : BEq Namespaces := ⟨same⟩

def add (n : Namespaces) (label package : String) : Namespaces :=
  { n with packages := n.packages.insert label package }

def package? (n : Namespaces) (label : String) : Option String := n.packages.lookup label

def size (n : Namespaces) : Nat := n.packages.length

def isEmpty (n : Namespaces) : Bool := n.packages.isEmpty

def clear (n : Namespaces) : Namespaces := { n with packages := [] }

def pairOfJson? : Json → Option (String × String)
  | .arr [.str label, .str package] => some (label, package)
  | _ => none

def memberOfJson? : String × Json → Option (String × String)
  | (label, .str package) => some (label, package)
  | _ => none

def ofJson? : Json → Option Namespaces
  | .obj members => (members.mapM memberOfJson?).map fun ps => ⟨ps, false⟩
  | .arr items => (items.mapM pairOfJson?).map fun ps => ⟨Dict.ofList ps, true⟩
  | _ => none

def toJson (n : Namespaces) : Json :=
  if n.asPairs then .arr (n.packages.map fun (label, package) => .arr [.str label, .str package])
  else .obj (n.packages.map fun (label, package) => (label, .str package))

end Namespaces

end Jadn
