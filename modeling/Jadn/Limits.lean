/-!
Resource limits: how deep instances may nest, how many elements a collection may hold, how
many types a schema may declare and how many packages an import may visit.
-/

namespace Jadn

structure Limits where
  maxDepth : Nat := 128
  maxCollectionSize : Nat := 100000
  maxTypes : Nat := 10000
  maxPackages : Nat := 100
  deriving DecidableEq, Inhabited

/-- What a limit is about. -/
inductive Resource where
  | depth
  | collectionSize
  | types
  | packages
  deriving DecidableEq

/-- A count above its maximum. -/
structure Excess where
  resource : Resource
  count : Nat
  maximum : Nat
  deriving DecidableEq

namespace Resource

def description : Resource → String
  | depth => "Validation depth"
  | collectionSize => "Collection size"
  | types => "Type definition count"
  | packages => "Package count"

end Resource

def Excess.message (e : Excess) : String :=
  s!"{e.resource.description} {e.count} exceeds maximum {e.maximum}"

namespace Limits

def strict : Limits := ⟨32, 10000, 1000, 20⟩

def permissive : Limits := ⟨1024, 10000000, 1000000, 10000⟩

def maximum (l : Limits) : Resource → Nat
  | .depth => l.maxDepth
  | .collectionSize => l.maxCollectionSize
  | .types => l.maxTypes
  | .packages => l.maxPackages

/-- Counts up to the maximum pass. -/
def check (l : Limits) (resource : Resource) (count : Nat) : Except Excess Unit :=
  if l.maximum resource < count then .error ⟨resource, count, l.maximum resource⟩ else .ok ()

theorem check_eq_ok_iff (l : Limits) (resource : Resource) (count : Nat) :
    l.check resource count = .ok () ↔ count ≤ l.maximum resource := by
  unfold check
  split <;> simp_all

end Limits

end Jadn
