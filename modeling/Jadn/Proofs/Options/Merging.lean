import Jadn.Options
import Mathlib.Data.List.Dedup
import Mathlib.Data.List.Induction

/-!
Options laid over one another.

A value of the overlay replaces the one below it, a flag is given if either side gives it, and the
items without a meaning are followed by those that are not among them yet. Hence a stack of
options can be merged from either end, and options laid over themselves add nothing. What is said
about a field and what is said about its type are merged apart from each other, and the two parts
of options make them up again.
-/

set_option autoImplicit false

namespace Jadn.Options

section Unknown

variable {items others : List String} {item : String}

@[simp] theorem mergeUnknown_nil : mergeUnknown items [] = items := rfl

theorem mergeUnknown_concat : mergeUnknown items (others ++ [item]) =
    if item ∈ mergeUnknown items others then mergeUnknown items others
    else mergeUnknown items others ++ [item] := by
  rw [mergeUnknown, List.foldl_append]
  rfl

/-- The items of the base stay as they are, however often they occur. Those of the overlay that
are new follow in the order in which they occur first. -/
theorem mergeUnknown_eq_append (items others : List String) : mergeUnknown items others =
    items ++ (others.filter (· ∉ items)).reverse.dedup.reverse := by
  -- `dedup` keeps the last occurrence of an element, which is the first one backwards.
  induction others using List.reverseRecOn with
  | nil => simp
  | append_singleton others item ih =>
    rw [mergeUnknown_concat, ih]
    by_cases old : item ∈ items
    · simp [old]
    · by_cases before : item ∈ others
      · simp [old, before]
      · simp [old, before]

theorem mem_mergeUnknown : item ∈ mergeUnknown items others ↔ item ∈ items ∨ item ∈ others := by
  by_cases old : item ∈ items <;> simp [mergeUnknown_eq_append, old]

theorem mergeUnknown_of_subset (present : others ⊆ items) : mergeUnknown items others = items := by
  have none : others.filter (· ∉ items) = [] :=
    List.filter_eq_nil_iff.mpr fun item member => by simpa using present member
  rw [mergeUnknown_eq_append, none]
  simp

/-- The last item of all is added on both sides, or is there already on both. -/
theorem mergeUnknown_assoc (items others more : List String) :
    mergeUnknown (mergeUnknown items others) more =
      mergeUnknown items (mergeUnknown others more) := by
  induction more using List.reverseRecOn with
  | nil => rfl
  | append_singleton more item ih =>
    rw [mergeUnknown_concat, mergeUnknown_concat, ih]
    by_cases present : item ∈ mergeUnknown others more
    · rw [if_pos present, if_pos (mem_mergeUnknown.mpr (.inr present))]
    · rw [if_neg present, mergeUnknown_concat]

end Unknown

section Laws

variable (a b c : Options)

theorem merge_assoc : (a.merge b).merge c = a.merge (b.merge c) := by
  simp [merge, Option.or_assoc, Bool.or_assoc, mergeUnknown_assoc]

theorem merge_self : a.merge a = a := by
  simp [merge, mergeUnknown_of_subset]

theorem merge_empty : a.merge empty = a := by
  simp [merge, empty]

theorem fieldOptions_merge :
    (a.merge b).fieldOptions = a.fieldOptions.merge b.fieldOptions := by
  simp [merge, fieldOptions]

theorem typeOptions_merge :
    (a.merge b).typeOptions = a.typeOptions.merge b.typeOptions := by
  simp [merge, typeOptions]

theorem typeOptions_merge_fieldOptions : a.typeOptions.merge a.fieldOptions = a := by
  simp [merge, typeOptions, fieldOptions]

/-- To merge options is associative and idempotent, with the empty options neutral on top. Taking
one part of options commutes with it, and options are the part about the field over the part about
the type. -/
theorem merge_laws : (a.merge b).merge c = a.merge (b.merge c) ∧ a.merge a = a ∧
    a.merge empty = a ∧
    (a.merge b).fieldOptions = a.fieldOptions.merge b.fieldOptions ∧
    (a.merge b).typeOptions = a.typeOptions.merge b.typeOptions ∧
    a.typeOptions.merge a.fieldOptions = a :=
  ⟨merge_assoc a b c, merge_self a, merge_empty a, fieldOptions_merge a b, typeOptions_merge a b,
    typeOptions_merge_fieldOptions a⟩

/-- Below other options, the empty ones are neutral only as long as no item occurs twice. -/
example : empty.merge { unknown := ["~", "?x", "~"] } = { unknown := ["~", "?x"] } := by
  decide +kernel

end Laws

end Jadn.Options
