/-!
Ordered dictionaries: association lists whose keys keep the place of their first insertion.

Look-up is `List.lookup`. `Dict.insert` replaces a value in place and appends a new key, so
a list built by it has distinct keys; equality up to order is left to the value types.
-/

namespace Jadn

abbrev Dict (α : Type _) := List (String × α)

namespace Dict

universe u
variable {α : Type u}

def keys (d : Dict α) : List String := d.map Prod.fst

def values (d : Dict α) : List α := d.map Prod.snd

def contains (d : Dict α) (key : String) : Bool := (d.lookup key).isSome

def insert (key : String) (value : α) : Dict α → Dict α
  | [] => [(key, value)]
  | (k, v) :: rest =>
    if k = key then (key, value) :: rest else (k, v) :: insert key value rest

def erase (d : Dict α) (key : String) : Dict α := d.filter (·.1 != key)

/-- The last value given for a key stands at the place of the first. -/
def ofList (entries : List (String × α)) : Dict α :=
  entries.foldl (fun d e => d.insert e.1 e.2) []

/-- The same keys with equal values, in any order. -/
def sameBy (eq : α → α → Bool) (d e : Dict α) : Bool :=
  d.length == e.length && d.all fun (k, v) => (e.lookup k).any (eq v)

@[simp] theorem lookup_insert_self (d : Dict α) (key : String) (value : α) :
    (d.insert key value).lookup key = some value := by
  induction d with
  | nil => simp [insert]
  | cons e rest ih =>
    obtain ⟨k, v⟩ := e
    by_cases h : k = key
    · simp [insert, h]
    · have : (key == k) = false := by simpa using fun h' => h h'.symm
      simp [insert, h, List.lookup_cons, this, ih]

theorem lookup_insert_of_ne (d : Dict α) {key other : String} (value : α) (h : other ≠ key) :
    (d.insert key value).lookup other = d.lookup other := by
  induction d with
  | nil =>
    have : (other == key) = false := by simpa using h
    simp [insert, List.lookup_cons, this]
  | cons e rest ih =>
    obtain ⟨k, v⟩ := e
    by_cases hk : k = key
    · have : (other == key) = false := by simpa using h
      simp [insert, hk, List.lookup_cons, this]
    · simp [insert, hk, List.lookup_cons, ih]

end Dict

end Jadn
