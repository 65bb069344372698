import Jadn.Json.Members
import Jadn.Proofs.Dict
import Jadn.Proofs.Numeral

/-!
Objects read back member by member, and JSON values that equal themselves.

An object of which some members are known is written as these, those that are set, and the
other ones after them. Each known member is then found with its value, and the other ones are
found in their order.
-/

set_option autoImplicit false

namespace Jadn

namespace Json

/-- No object holds two members of one name. -/
inductive Distinct : Json → Prop where
  | null : Distinct .null
  | bool (b : Bool) : Distinct (.bool b)
  | int (n : Int) : Distinct (.int n)
  | real (x : Binary64) : Distinct (.real x)
  | str (s : String) : Distinct (.str s)
  | arr {items : List Json} (h : ∀ v ∈ items, Distinct v) : Distinct (.arr items)
  | obj {members : List (String × Json)} (names : (members.map Prod.fst).Nodup)
      (h : ∀ m ∈ members, Distinct m.2) : Distinct (.obj members)

theorem sameItems_self {items : List Json} (h : ∀ v ∈ items, same v v = true) :
    sameItems items items = true := by
  induction items with
  | nil => rfl
  | cons v items ih =>
    rw [sameItems, h v List.mem_cons_self, ih fun w hw => h w (List.mem_cons_of_mem _ hw)]
    rfl

theorem sameMembers_of_lookup {ms ns : List (String × Json)}
    (found : ∀ m ∈ ms, ns.lookup m.1 = some m.2) (h : ∀ m ∈ ms, same m.2 m.2 = true) :
    sameMembers ms ns = true := by
  induction ms with
  | nil => rfl
  | cons m ms ih =>
    obtain ⟨k, v⟩ := m
    rw [sameMembers, found (k, v) List.mem_cons_self,
      ih (fun m hm => found m (List.mem_cons_of_mem _ hm)) fun m hm =>
        h m (List.mem_cons_of_mem _ hm)]
    simpa using h (k, v) List.mem_cons_self

theorem Distinct.same_self {v : Json} (h : v.Distinct) : same v v = true := by
  induction h with
  | null => rfl
  | bool b => simp [same]
  | int n => simp [same]
  | real x => simp [same, BEq.beq]
  | str s => simp [same]
  | arr _ ih =>
    rw [same]
    exact sameItems_self ih
  | obj names _ ih =>
    rw [same, beq_self_eq_true, Bool.true_and]
    exact sameMembers_of_lookup (fun m hm => lookup_of_mem names hm) ih

end Json

theorem Dict.sameBy_self {α : Type} {eq : α → α → Bool} {d : Dict α}
    (distinct : (d.map Prod.fst).Nodup) (h : ∀ e ∈ d, eq e.2 e.2 = true) :
    d.sameBy eq d = true := by
  rw [sameBy, beq_self_eq_true, Bool.true_and, List.all_eq_true]
  rintro ⟨k, v⟩ he
  simp only [lookup_of_mem distinct he]
  exact h _ he

theorem Dict.eq_nil_of_sameBy {α : Type} {eq : α → α → Bool} {d : Dict α}
    (h : d.sameBy eq [] = true) : d = [] := by
  rw [sameBy, Bool.and_eq_true, beq_iff_eq] at h
  exact List.length_eq_zero_iff.mp h.1

namespace Json.Members

theorem distinct_of_mem {ms : Dict Json} (h : Distinct (.obj ms)) {e : String × Json}
    (he : e ∈ ms) : e.2.Distinct := by
  cases h with
  | obj _ values => exact values e he

/-- Members of other names than the known ones, no two of one name. -/
structure Unknown (known : List String) (extra : Dict Json) : Prop where
  names : ∀ e ∈ extra, e.1 ∉ known
  distinct : (extra.map Prod.fst).Nodup
  values : ∀ e ∈ extra, e.2.Distinct

theorem Unknown.same_self {known : List String} {extra : Dict Json} (h : Unknown known extra) :
    extra.sameBy Json.same extra = true :=
  Dict.sameBy_self h.distinct fun e he => (h.values e he).same_self

theorem unknown_nil (known : List String) : Unknown known [] :=
  ⟨by simp, by simp, by simp⟩

/-- The other members of an object are unknown ones. -/
theorem unknown_others (known : List String) {ms : Dict Json} (h : Distinct (.obj ms)) :
    Unknown known (others known ms) := by
  cases h with
  | obj names values =>
    refine ⟨?_, ?_, ?_⟩
    · intro e he
      simpa using (List.mem_filter.mp he).2
    · exact names.sublist (List.filter_sublist.map _)
    · intro e he
      exact values e (List.mem_filter.mp he).1

def written (known : List (String × Option Json)) : Dict Json :=
  known.filterMap fun m => m.2.map (m.1, ·)

theorem written_cons {α : Type} (key : String) (toJson : α → Json) (value : Option α)
    (known : List (String × Option Json)) :
    written ((key, value.map toJson) :: known) = write key toJson value ++ written known := by
  cases value <;> rfl

section Written

variable {known : List (String × Option Json)} {extra : Dict Json}

theorem mem_written {e : String × Json} (h : e ∈ written known) : (e.1, some e.2) ∈ known := by
  obtain ⟨m, hm, set⟩ := List.mem_filterMap.mp h
  obtain ⟨v, hv, rfl⟩ := Option.map_eq_some_iff.mp set
  rw [← hv]
  exact hm

theorem written_sublist : ((written known).map Prod.fst).Sublist (known.map Prod.fst) := by
  induction known with
  | nil => exact .slnil
  | cons m known ih =>
    obtain ⟨key, value⟩ := m
    cases value with
    | none => exact ih.cons key
    | some v => exact ih.cons_cons key

theorem lookup_written (distinct : (known.map Prod.fst).Nodup)
    (apart : ∀ e ∈ extra, e.1 ∉ known.map Prod.fst) {key : String} {value : Option Json}
    (h : (key, value) ∈ known) : (written known ++ extra).lookup key = value := by
  rw [List.lookup_append]
  cases value with
  | some v =>
    have member : (key, v) ∈ written known := List.mem_filterMap.mpr ⟨_, h, rfl⟩
    rw [lookup_of_mem (distinct.sublist written_sublist) member]
    rfl
  | none =>
    have unset : key ∉ (written known).keys := by
      intro listed
      obtain ⟨e, he, rfl⟩ := List.mem_map.mp listed
      have found := lookup_of_mem distinct (mem_written he)
      rw [lookup_of_mem distinct h] at found
      cases found
    have other : key ∉ Dict.keys extra := by
      intro listed
      obtain ⟨e, he, rfl⟩ := List.mem_map.mp listed
      exact apart e he (List.mem_map_of_mem h)
    rw [Dict.lookup_of_not_mem unset, Dict.lookup_of_not_mem other]
    rfl

theorem others_written (apart : ∀ e ∈ extra, e.1 ∉ known.map Prod.fst) :
    others (known.map Prod.fst) (written known ++ extra) = extra := by
  rw [others, List.filter_append, List.filter_eq_nil_iff.mpr, List.filter_eq_self.mpr]
  · rfl
  · intro e he
    simpa using apart e he
  · intro e he
    have listed : e.1 ∈ known.map Prod.fst := List.mem_map_of_mem (mem_written he)
    simpa using listed

end Written

section Reading

variable {α : Type} {read : Json → Option α} {ms : Dict Json} {key : String} {toJson : α → Json}

theorem optional?_eq {value : Option α} (found : ms.lookup key = value.map toJson)
    (present : ∀ a, (toJson a).isNull = false) (reads : ∀ a, read (toJson a) = some a) :
    optional? read ms key = some value := by
  cases value with
  | none =>
    rw [optional?, found]
    rfl
  | some a =>
    have set := present a
    unfold optional?
    rw [found, Option.map_some]
    split
    · next none => cases none
    · next null =>
      rw [Option.some.inj null] at set
      cases set
    · next v _ same =>
      rw [← Option.some.inj same, reads a]
      rfl

/-- A member that is left out for a default is read back. -/
theorem withDefault?_eq {default : α} {value : Option α} (found : ms.lookup key = value.map toJson)
    (reads : ∀ a ∈ value, read (toJson a) = some a) :
    withDefault? default read ms key = some (value.getD default) := by
  rw [withDefault?, found]
  cases value with
  | none => rfl
  | some a => exact reads a rfl

theorem withDefault?_eq_some {default a : α} (h : withDefault? default read ms key = some a) :
    a = default ∨ ∃ v, (key, v) ∈ ms ∧ read v = some a := by
  unfold withDefault? at h
  split at h
  · exact Or.inl (Option.some.inj h).symm
  · next v found => exact Or.inr ⟨v, mem_of_lookup found, h⟩

end Reading

end Json.Members

end Jadn
