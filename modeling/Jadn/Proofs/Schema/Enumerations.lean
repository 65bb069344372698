import Jadn.Proofs.Schema.Building

/-!
What derived enumerations list.

An enumeration that takes its items from a declared type, and likewise what a marked reference
denotes, lists the fields of that type. If the type is an enumeration itself, then the items are
those that are declared with it, whatever it takes from elsewhere: derived enumerations are not
derived from one another.
-/

set_option autoImplicit false

namespace Jadn

namespace TypeDefinition

/-- An enumeration of what goes by the name of a definition: the items of an enumeration, and the
fields of anything else. -/
structure Lists (t e : TypeDefinition) : Prop where
  enumeration : e.isEnumeration = true
  fields : t.isEnumeration = false →
    e.items = t.fields.map fun f => ⟨f.id, f.name, f.description⟩
  items : t.isEnumeration = true → e.items = t.items

theorem lists_of_toEnumeration {t e : TypeDefinition} (derived : t.toEnumeration = .ok e) :
    t.Lists e := by
  have enumeration := isEnumeration_iff.mpr (toEnumeration_eq_ok derived).1
  unfold toEnumeration at derived
  split at derived
  · next kind =>
    cases derived
    exact ⟨enumeration, by simp [enumeration], fun _ => rfl⟩
  all_goals first
    | cases derived
    | next kind =>
      obtain ⟨rfl, -⟩ := create_eq_ok_iff.mp (Except.mapError_eq_ok_iff.mp derived)
      refine ⟨enumeration, fun _ => ?_, ?_⟩
      · simp [TypeDefinition.items, Kind.items, TypeDefinition.fields, Kind.fields, kind]
      · simp [isEnumeration, baseType, kind, Kind.baseType]

theorem Lists.replace {t e d : TypeDefinition} (h : t.Lists e) :
    t.Lists { d with kind := .enumerated e.items } :=
  ⟨rfl, h.fields, h.items⟩

end TypeDefinition

namespace Schema

/-- What a key is derived from: the name of an enumeration from the type that its option names, and
a reference that stands marked in a definition from the type behind the marker, unless an
enumeration that takes its items from elsewhere is declared under the reference itself. -/
inductive DerivedFrom (s : Schema) : (key : String) → (source : TypeDefinition) → Prop where
  | own {d t : TypeDefinition} {a : String} (declared : d ∈ s.types)
      (enumeration : d.isEnumeration = true) (option : d.options.enumeration = some a)
      (source : s.get? (splitMarker a).2 = some t) : DerivedFrom s d.name t
  | reference {r : String} {t : TypeDefinition}
      (stands : r ∈ s.types.flatMap (·.markedReferences))
      (free : (s.get? r).bind (Extensions.own? s.types) = none)
      (source : s.get? (splitMarker r).2 = some t) : DerivedFrom s r t

namespace Tables

variable {info : Info} {types : List TypeDefinition} {limits : Limits} {s : Schema}
  (tables : Tables info types limits s)
include tables

theorem lookup?_of_own {d e : TypeDefinition} (hd : d ∈ types)
    (own : Extensions.own? types d = some e) : s.lookup? d.name = some e := by
  rw [tables.lookup?_eq, resolve?, Extensions.lookup_ofTypes tables.distinct tables.extensions,
    declared?_of_mem tables.distinct hd, Option.bind_some, own]
  rfl

/-- A marked reference denotes the enumeration of what it names, unless an enumeration that takes
its items from elsewhere goes by the reference itself. -/
theorem lookup?_of_stands {r : String} {e : TypeDefinition}
    (stands : r ∈ types.flatMap (·.markedReferences))
    (free : (declared? types r).bind (Extensions.own? types) = none)
    (derived : Extensions.derived? types r = some e) : s.lookup? r = some e := by
  rw [tables.lookup?_eq, resolve?, Extensions.lookup_ofTypes tables.distinct tables.extensions,
    free, if_pos stands, derived]
  rfl

theorem lookup?_of_declared {d : TypeDefinition} (hd : d ∈ types)
    (own : Extensions.own? types d = none)
    (apart : d.name ∉ types.flatMap (·.markedReferences)) : s.lookup? d.name = some d := by
  rw [tables.lookup?_eq, resolve?, Extensions.lookup_ofTypes tables.distinct tables.extensions,
    declared?_of_mem tables.distinct hd, Option.bind_some, own, if_neg apart]
  rfl

end Tables

/-- What is derived from a type lists what goes by the name of that type. -/
theorem Built.lists_of_derivedFrom {s : Schema} (built : s.Built) {key : String}
    {t : TypeDefinition} (h : s.DerivedFrom key t) : ∃ e, s.lookup? key = some e ∧ t.Lists e := by
  have tables := built.tables
  cases h with
  | @own d _ a declared enumeration option source =>
    obtain ⟨listed, kind⟩ := TypeDefinition.isEnumeration_iff.mp enumeration
    obtain ⟨taken, found⟩ := Extensions.taken_of_ofTypes tables.extensions declared
    have read := found
    rw [get?] at source
    rw [Extensions.items?, kind, option] at read
    simp only [source] at read
    obtain ⟨e, derived, rfl⟩ := Except.map_eq_ok_iff.mp read
    exact ⟨_, tables.lookup?_of_own declared (Extensions.own?_of_items? found),
      (TypeDefinition.lists_of_toEnumeration derived).replace⟩
  | reference stands free source =>
    obtain ⟨e, derived⟩ := Extensions.enumerable_of_ofTypes tables.distinct tables.extensions free
      stands t source
    have denoted := Extensions.derived?_eq_some_iff.mpr ⟨t, source, derived⟩
    exact ⟨e, tables.lookup?_of_stands stands free denoted,
      TypeDefinition.lists_of_toEnumeration derived⟩

/-- An enumeration is found with the items that it declares exactly if it takes no other ones. -/
theorem Built.items_lookup?_iff {s : Schema} (built : s.Built) {t : TypeDefinition}
    (declared : t ∈ s.types) (apart : t.name ∉ s.types.flatMap (·.markedReferences)) :
    ∃ l, s.lookup? t.name = some l ∧ (l.items = t.items ↔
      ∀ items, Extensions.items? s.types t = .ok (some items) → items = t.items) := by
  have tables := built.tables
  obtain ⟨taken, found⟩ := Extensions.taken_of_ofTypes tables.extensions declared
  have own := Extensions.own?_of_items? found
  cases taken with
  | none => exact ⟨t, tables.lookup?_of_declared declared own apart, by simp [found]⟩
  | some items =>
    refine ⟨_, tables.lookup?_of_own declared own, ?_⟩
    simp [found, TypeDefinition.items, Kind.items]

/-- Derived enumerations list what goes by the name of their sources. Where the source is an
enumeration, these are its own items, and so they are what is found under its name exactly if the
source takes no other items from elsewhere. -/
theorem Built.items_of_derivedFrom {s : Schema} (built : s.Built) {key : String}
    {t : TypeDefinition} (h : s.DerivedFrom key t) :
    ∃ e, s.lookup? key = some e ∧ t.Lists e ∧
      (t.isEnumeration = true → t.name ∉ s.types.flatMap (·.markedReferences) →
        ∃ l, s.lookup? t.name = some l ∧ (e.items = l.items ↔
          ∀ items, Extensions.items? s.types t = .ok (some items) → items = t.items)) := by
  obtain ⟨e, found, lists⟩ := built.lists_of_derivedFrom h
  refine ⟨e, found, lists, fun enumeration apart => ?_⟩
  have declared : t ∈ s.types := by
    cases h with
    | own _ _ _ source => exact (mem_of_declared? source).1
    | reference _ _ source => exact (mem_of_declared? source).1
  obtain ⟨l, looked, same⟩ := built.items_lookup?_iff declared apart
  refine ⟨l, looked, ?_⟩
  rw [lists.items enumeration, eq_comm]
  exact same

def kinds : Schema where
  info := { package := "kinds" }
  types := [
    { name := "Target", options := {}, description := "",
      kind := .choice [.new 1 "file" "String"] },
    { name := "Kind", options := { enumeration := some "Target" }, description := "",
      kind := .enumerated [] },
    { name := "Alias", options := { enumeration := some "Kind" }, description := "",
      kind := .enumerated [] }]
  limits := {}
  extensions := [
    ("Kind", {
      name := "Kind", options := { enumeration := some "Target" }, description := ""
      kind := .enumerated [⟨1, "file", ""⟩] }),
    ("Alias", {
      name := "Alias", options := { enumeration := some "Kind" }, description := ""
      kind := .enumerated [] })]
  fieldTypes := []
  patterns := []

/-- The first enumeration lists the alternative. The second one is derived from an enumeration that
declares no items, and lists nothing. -/
theorem items_of_derivedFrom_kinds :
    kinds.Built ∧ kinds.DerivedFrom "Kind" kinds.types[0] ∧
      kinds.DerivedFrom "Alias" kinds.types[1] ∧
        (∃ e, kinds.lookup? "Kind" = some e ∧ e.items = [⟨1, "file", ""⟩]) ∧
          ∃ e l, kinds.lookup? "Alias" = some e ∧ kinds.lookup? "Kind" = some l ∧
            e.items = [] ∧ e.items ≠ l.items := by
  have built : kinds.Built := ⟨by decide, .entered, rfl⟩
  have kind : kinds.DerivedFrom "Kind" kinds.types[0] :=
    .own (d := kinds.types[1]) (a := "Target") (List.getElem_mem _) rfl rfl rfl
  have other : kinds.DerivedFrom "Alias" kinds.types[1] :=
    .own (d := kinds.types[2]) (a := "Kind") (List.getElem_mem _) rfl rfl rfl
  refine ⟨built, kind, other, ?_, ?_⟩
  · obtain ⟨e, found, lists, -⟩ := built.items_of_derivedFrom kind
    exact ⟨e, found, lists.fields rfl⟩
  · obtain ⟨e, found, lists, chained⟩ := built.items_of_derivedFrom other
    obtain ⟨l, looked, same⟩ := chained rfl (by decide)
    refine ⟨e, l, found, looked, lists.items rfl, fun equal => ?_⟩
    have declared := same.mp equal [⟨1, "file", ""⟩] rfl
    cases declared

end Schema

end Jadn
