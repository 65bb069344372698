import Jadn.Binary64
import Jadn.Dict
import Jadn.Numeral

/-!
JSON values. Numbers are either integers or binary64 numbers, and the two never compare
equal; members of an object are kept in order, and objects compare without regard to it.
-/

namespace Jadn

inductive Json where
  | null
  | bool (value : Bool)
  | int (value : Int)
  | real (value : Binary64)
  | str (value : String)
  | arr (items : List Json)
  | obj (members : List (String × Json))
  deriving Inhabited

namespace Json

mutual

/-- Equality of JSON values: objects are equal when they hold equal members. -/
def same : Json → Json → Bool
  | .null, .null => true
  | .bool a, .bool b => a == b
  | .int a, .int b => a == b
  | .real a, .real b => a == b
  | .str a, .str b => a == b
  | .arr xs, .arr ys => sameItems xs ys
  | .obj ms, .obj ns => ms.length == ns.length && sameMembers ms ns
  | _, _ => false

def sameItems : List Json → List Json → Bool
  | [], [] => true
  | x :: xs, y :: ys => same x y && sameItems xs ys
  | _, _ => false

/-- Every member of the first list has an equal one in the second. -/
def sameMembers : List (String × Json) → List (String × Json) → Bool
  | [], _ => true
  | (k, v) :: ms, ns =>
    (match ns.lookup k with
      | some w => same v w
      | none => false) && sameMembers ms ns

end

instance : BEq Json := ⟨same⟩

def isNull : Json → Bool
  | .null => true
  | _ => false

def str? : Json → Option String
  | .str s => some s
  | _ => none

def arr? : Json → Option (List Json)
  | .arr xs => some xs
  | _ => none

def obj? : Json → Option (List (String × Json))
  | .obj ms => some ms
  | _ => none

/-- An integer of 64 signed bits. -/
def int64? : Json → Option Int64
  | .int n => Numeral.word? n
  | _ => none

/-- An integer of 64 unsigned bits. -/
def uint64? : Json → Option UInt64
  | .int n => if 0 ≤ n ∧ n < UInt64.size then some (UInt64.ofNat n.toNat) else none
  | _ => none

/-- An integer that fits 64 bits, signed or unsigned. -/
def integer? : Json → Option Int
  | .int n => if Int64.minValue.toInt ≤ n ∧ n < UInt64.size then some n else none
  | _ => none

/-- Any number, an integer rounded to the nearest. -/
def number? : Json → Option Binary64
  | .int n => Binary64.ofInt? n
  | .real x => some x
  | _ => none

def ofInt64 (n : Int64) : Json := .int n.toInt

def ofUInt64 (n : UInt64) : Json := .int n.toNat

def strings (texts : List String) : Json := .arr (texts.map .str)

end Json

end Jadn
