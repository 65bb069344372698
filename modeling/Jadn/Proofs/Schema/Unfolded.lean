import Jadn.Proofs.Schema.Building
import Jadn.Proofs.Schema.Unfolding

/-!
Unfolded schemas.

The unfolded form of a schema declares its definitions, in order, and then enumerations for the
marked references that stand in it. If every reference of the schema leads somewhere, then nothing
is left to unfold: no reference is marked, and no enumeration takes its items from elsewhere. Such
a schema is its own unfolded form.
-/

set_option autoImplicit false

namespace Jadn

theorem unmarked_enumerationName (name : String) :
    Unmarked (TypeDefinition.enumerationName name) :=
  unmarked_iff.mpr (by simp [TypeDefinition.enumerationName])

theorem TypeDefinition.hasForeignItems_mapMarkedReferences {d : TypeDefinition}
    {g : String → String} :
    (d.mapMarkedReferences (m := Id) g).hasForeignItems = d.hasForeignItems := by
  obtain ⟨name, options, description, kind⟩ := d
  cases kind <;> rfl

namespace Extensions

variable {types : List TypeDefinition} {d : TypeDefinition}

theorem own?_of_not_hasForeignItems (h : d.hasForeignItems = false) : own? types d = none := by
  have untaken : (items? types d).toOption.join = none := by
    by_cases enumerated : ∃ items, d.kind = .enumerated items
    · rw [TypeDefinition.hasForeignItems, TypeDefinition.isEnumeration_iff.mpr enumerated,
        Bool.true_and, Bool.or_eq_false_iff, Option.isSome_eq_false_iff,
        Option.isSome_eq_false_iff, Option.isNone_iff_eq_none, Option.isNone_iff_eq_none] at h
      exact taken_of_none h.1 h.2
    · exact taken_of_other enumerated
  rw [own?, untaken]
  rfl

theorem own?_isSome_of_hasForeignItems {table : Dict TypeDefinition}
    (derived : ofTypes types = .ok table) (hd : d ∈ types) (foreign : d.hasForeignItems = true)
    (listed : ∀ a, d.options.enumeration = some a → (declared? types (splitMarker a).2).isSome)
    (led : ∀ a, d.options.pointer = some a → (declared? types a).isSome) :
    (own? types d).isSome := by
  obtain ⟨taken, found⟩ := taken_of_ofTypes derived hd
  rw [TypeDefinition.hasForeignItems, Bool.and_eq_true, Bool.or_eq_true] at foreign
  obtain ⟨enumeration, source⟩ := foreign
  obtain ⟨items, kind⟩ := TypeDefinition.isEnumeration_iff.mp enumeration
  cases option : d.options.enumeration with
  | some a =>
    obtain ⟨t, declared⟩ := Option.isSome_iff_exists.mp (listed a option)
    rw [own?, Option.isSome_map, found]
    rw [items?, kind, option] at found
    simp only [declared] at found
    obtain ⟨e, -, rfl⟩ := Except.map_eq_ok_iff.mp found
    rfl
  | none =>
    rw [option] at source
    obtain ⟨a, target⟩ := Option.isSome_iff_exists.mp (source.resolve_left (by simp))
    rw [own?, Option.isSome_map, taken_of_pointer kind option target, Option.isSome_map]
    exact led a target

end Extensions

namespace Schema

def SourcesDeclared (s : Schema) : Prop :=
  ∀ d ∈ s.types,
    (∀ a, d.options.enumeration = some a → (s.get? (splitMarker a).2).isSome) ∧
      ∀ a, d.options.pointer = some a → (s.get? a).isSome

/-- Nothing is left to unfold: no reference is marked, and every enumeration has its own items. -/
structure Plain (s : Schema) : Prop where
  unmarked : ∀ d ∈ s.types, ∀ x ∈ d.lookedUp, Unmarked x
  own : ∀ d ∈ s.types, d.hasForeignItems = false

/-- A schema and its unfolded form, where no name is taken for a marked reference. -/
structure Unfolds (s u : Schema) : Prop where
  built : s.Built
  unmarked : ∀ d ∈ s.types, Unmarked d.name
  tables : Tables s.info (s.types.map s.unfoldedType ++ s.addedTypes.values) s.limits u

namespace Unfolds

variable {s u : Schema} (unfolds : Unfolds s u)
include unfolds

theorem get?_of_marked {a : String} (marked : (splitMarker a).1 = true) : s.get? a = none :=
  Schema.get?_of_marked unfolds.unmarked marked

/-- What a marked reference is unfolded to is what it denotes. -/
theorem lookup_extensions {a : String} (marked : (splitMarker a).1 = true) :
    s.extensions.lookup a =
      if a ∈ s.types.flatMap (·.markedReferences) then Extensions.derived? s.types a else none := by
  have tables := unfolds.built.tables
  exact Extensions.lookup_of_marked tables.distinct tables.extensions
    (unfolds.get?_of_marked marked)

theorem withItems_eq {d : TypeDefinition} (hd : d ∈ s.types) :
    s.withItems d = match Extensions.own? s.types d with
      | some e => e.withOptions { e.options with enumeration := none, pointer := none }
      | none => d := by
  have tables := unfolds.built.tables
  have found : s.extensions.lookup d.name = Extensions.own? s.types d := by
    rw [Extensions.lookup_of_unmarked tables.distinct tables.extensions (unfolds.unmarked d hd),
      declared?_of_mem tables.distinct hd, Option.bind_some]
  unfold withItems
  cases own : Extensions.own? s.types d <;> simp only [found, own]

theorem lookedUp_withItems {d : TypeDefinition} (hd : d ∈ s.types) :
    (s.withItems d).lookedUp = d.lookedUp := by
  rw [unfolds.withItems_eq hd]
  cases own : Extensions.own? s.types d with
  | none => rfl
  | some e =>
    obtain ⟨items', kind⟩ := Extensions.enumerated_of_own? own
    obtain ⟨items, -, rfl⟩ := Option.map_eq_some_iff.mp own
    simp [TypeDefinition.lookedUp, TypeDefinition.withOptions, TypeDefinition.fields, kind,
      Kind.fields]

theorem name_unfoldedType {d : TypeDefinition} (hd : d ∈ s.types) :
    (s.unfoldedType d).name = d.name := by
  have name : (s.withItems d).name = d.name := by
    rw [unfolds.withItems_eq hd]
    cases own : Extensions.own? s.types d with
    | none => rfl
    | some e =>
      obtain ⟨items, -, rfl⟩ := Option.map_eq_some_iff.mp own
      rfl
  exact name

theorem get?_of_get? {x : String} {d : TypeDefinition} (found : s.get? x = some d) :
    s.unfoldedType d ∈ u.types ∧ u.get? x = some (s.unfoldedType d) := by
  obtain ⟨hd, rfl⟩ := mem_of_declared? found
  have member : s.unfoldedType d ∈ u.types := by
    rw [unfolds.tables.types_eq]
    exact List.mem_append_left _ (List.mem_map_of_mem hd)
  have distinct := unfolds.tables.own.distinct
  refine ⟨member, ?_⟩
  rw [← unfolds.name_unfoldedType hd]
  exact declared?_of_mem distinct member

theorem unmarked_of_derived {a : String} {e : TypeDefinition}
    (denoted : Extensions.derived? s.types a = some e) : Unmarked e.name := by
  obtain ⟨d, source, derived⟩ := Extensions.derived?_eq_some_iff.mp denoted
  rcases (TypeDefinition.toEnumeration_eq_ok derived).2 with rfl | ⟨named, -⟩
  · exact unfolds.unmarked e (mem_of_declared? source).1
  · exact named ▸ unmarked_enumerationName d.name

/-- An enumeration that a reference denotes, under a name that is not declared, is that of the
fields of a definition. -/
theorem derived_of_undeclared {a : String} {e : TypeDefinition}
    (denoted : Extensions.derived? s.types a = some e) (undeclared : s.get? e.name = none) :
    ∃ d, s.get? d.name = some d ∧ d.toEnumeration = .ok e ∧
      e.name = TypeDefinition.enumerationName d.name ∧ e.options = { byId := d.options.byId } := by
  obtain ⟨d, declared, derived⟩ := Extensions.derived?_eq_some_iff.mp denoted
  obtain ⟨hd, -⟩ := mem_of_declared? declared
  rcases (TypeDefinition.toEnumeration_eq_ok derived).2 with rfl | ⟨named, options⟩
  · exact absurd (List.mem_map_of_mem hd) (get?_eq_none_iff.mp undeclared)
  · exact ⟨d, declared?_of_mem unfolds.built.tables.distinct hd, derived, named, options⟩

theorem derived_of_mem_addedTypes {e : TypeDefinition} (added : e ∈ s.addedTypes.values) :
    ∃ d, s.get? d.name = some d ∧ d.toEnumeration = .ok e ∧
      e.name = TypeDefinition.enumerationName d.name ∧ e.options = { byId := d.options.byId } := by
  obtain ⟨⟨n, _⟩, entry, rfl⟩ := List.mem_map.mp added
  obtain ⟨named, undeclared, y, stands⟩ := addedFrom_addedTypes n _ entry
  rw [unfolds.lookup_extensions (by rw [splitMarker_markedReference])] at stands
  split at stands
  · exact unfolds.derived_of_undeclared stands (by rw [named, undeclared])
  · cases stands

theorem derived_of_added {x : String} {e : TypeDefinition} (undeclared : s.get? x = none)
    (found : u.get? x = some e) :
    ∃ d, s.get? d.name = some d ∧ d.toEnumeration = .ok e ∧
      x = TypeDefinition.enumerationName d.name ∧ e.options = { byId := d.options.byId } := by
  obtain ⟨he, rfl⟩ := mem_of_declared? found
  rw [unfolds.tables.types_eq, List.mem_append] at he
  rcases he with declared | added
  · obtain ⟨d, hd, rfl⟩ := List.mem_map.mp declared
    rw [unfolds.name_unfoldedType hd] at undeclared
    exact absurd (List.mem_map_of_mem hd) (get?_eq_none_iff.mp undeclared)
  · exact unfolds.derived_of_mem_addedTypes added

/-- What is declared under the name of an enumeration that a marked reference denotes is that
enumeration, unless the schema declares the name. -/
theorem get?_enumeration {a : String} {e : TypeDefinition} (marked : (splitMarker a).1 = true)
    (stands : a ∈ s.types.flatMap (·.markedReferences))
    (denoted : Extensions.derived? s.types a = some e) (undeclared : s.get? e.name = none) :
    u.get? e.name = some e := by
  obtain ⟨d, hd, own⟩ := List.mem_flatMap.mp stands
  have listed : (splitMarker a).2 ∈ markedNames (s.withItems d).lookedUp := by
    rw [unfolds.lookedUp_withItems hd]
    exact List.mem_map_of_mem own
  have found : s.extensions.lookup (markedReference (splitMarker a).2) = some e := by
    rw [← splitMarker_of_marked marked, unfolds.lookup_extensions marked, if_pos stands]
    exact denoted
  have added := contains_addedTypes hd listed found undeclared
  have declared : e.name ∈ u.types.map (·.name) := by
    obtain ⟨⟨n, t⟩, entry, rfl⟩ := List.mem_map.mp (Dict.contains_iff_mem_keys.mp added)
    have named := (addedFrom_addedTypes _ _ entry).1
    refine List.mem_map.mpr ⟨t, ?_, named⟩
    rw [unfolds.tables.types_eq]
    exact List.mem_append_right _ (List.mem_map.mpr ⟨_, entry, rfl⟩)
  obtain ⟨t, found⟩ := Option.isSome_iff_exists.mp (declared?_isSome_iff.mpr declared)
  -- Names of enumerations tell apart what they are the enumerations of.
  obtain ⟨d', declared', derived', named', -⟩ := unfolds.derived_of_added undeclared found
  obtain ⟨b, own, derived, named, -⟩ := unfolds.derived_of_undeclared denoted undeclared
  have same : d'.name = b.name := by
    have text := congrArg String.toList (named'.symm.trans named)
    simpa [TypeDefinition.enumerationName, String.toList_inj] using text
  rw [same, own] at declared'
  cases declared'
  rw [derived] at derived'
  cases derived'
  exact found

/-- What a marked reference is unfolded to, if what it names is declared: an unmarked name that is
declared in the unfolded schema. -/
theorem unfoldedName_declared {a : String} (marked : (splitMarker a).1 = true)
    (stands : a ∈ s.types.flatMap (·.markedReferences))
    (declared : (s.get? (splitMarker a).2).isSome) :
    Unmarked (s.unfoldedName (splitMarker a).2) ∧
      (u.get? (s.unfoldedName (splitMarker a).2)).isSome := by
  have tables := unfolds.built.tables
  obtain ⟨d, source⟩ := Option.isSome_iff_exists.mp declared
  have free : (declared? s.types a).bind (Extensions.own? s.types) = none := by
    rw [show declared? s.types a = none from unfolds.get?_of_marked marked]
    rfl
  obtain ⟨e, derived⟩ := Extensions.enumerable_of_ofTypes tables.distinct tables.extensions free
    stands d source
  have denoted := Extensions.derived?_eq_some_iff.mpr ⟨d, source, derived⟩
  have name : s.unfoldedName (splitMarker a).2 = e.name := by
    rw [unfoldedName, ← splitMarker_of_marked marked, unfolds.lookup_extensions marked,
      if_pos stands, denoted]
    rfl
  rw [name]
  refine ⟨unfolds.unmarked_of_derived denoted, ?_⟩
  cases found : s.get? e.name with
  | some t => simp [(unfolds.get?_of_get? found).2]
  | none => simp [unfolds.get?_enumeration marked stands denoted found]

theorem plain_of_mem_addedTypes {e : TypeDefinition} (added : e ∈ s.addedTypes.values) :
    e.lookedUp = [] ∧ e.isEnumeration = true ∧ e.hasForeignItems = false := by
  obtain ⟨d, -, derived, -, options⟩ := unfolds.derived_of_mem_addedTypes added
  obtain ⟨items, kind⟩ := (TypeDefinition.toEnumeration_eq_ok derived).1
  refine ⟨?_, TypeDefinition.isEnumeration_iff.mpr ⟨items, kind⟩, ?_⟩
  · simp [TypeDefinition.lookedUp, TypeDefinition.fields, kind, Kind.fields, options]
  · simp [TypeDefinition.hasForeignItems, options]

theorem references_unfoldedType
    (resolvable : ∀ d ∈ s.types, ∀ x ∈ d.lookedUp, Resolvable s.types x) {d : TypeDefinition}
    (hd : d ∈ s.types) {x : String} (hx : x ∈ (s.unfoldedType d).lookedUp) :
    Unmarked x ∧ ((u.get? x).isSome ∨ (builtin? x).isSome) := by
  rw [unfoldedType, TypeDefinition.lookedUp_mapMarkedReferences, unfolds.lookedUp_withItems hd]
    at hx
  obtain ⟨a, ha, rfl⟩ := List.mem_map.mp hx
  have leads := resolvable d hd a ha
  cases marked : (splitMarker a).1 with
  | true =>
    have stands : a ∈ s.types.flatMap (·.markedReferences) := List.mem_flatMap.mpr
      ⟨d, hd, TypeDefinition.mem_markedReferences_iff.mpr ⟨ha, marked⟩⟩
    have declared := leads.resolve_right (by simp [builtin?_of_marked marked])
    rw [unmark, marked, if_pos rfl]
    exact (unfolds.unfoldedName_declared marked stands declared).imp_right Or.inl
  | false =>
    rw [unmark, marked, if_neg Bool.false_ne_true]
    refine ⟨marked, leads.imp_left fun declared => ?_⟩
    rw [splitMarker_of_unmarked marked] at declared
    obtain ⟨t, found⟩ := Option.isSome_iff_exists.mp declared
    simp [(unfolds.get?_of_get? found).2]

theorem hasForeignItems_unfoldedType (sources : s.SourcesDeclared) {d : TypeDefinition}
    (hd : d ∈ s.types) : (s.unfoldedType d).hasForeignItems = false := by
  rw [unfoldedType, TypeDefinition.hasForeignItems_mapMarkedReferences, unfolds.withItems_eq hd]
  cases own : Extensions.own? s.types d with
  | some e => simp [TypeDefinition.hasForeignItems, TypeDefinition.withOptions]
  | none =>
    by_contra foreign
    rw [Bool.not_eq_false] at foreign
    have taken := Extensions.own?_isSome_of_hasForeignItems unfolds.built.tables.extensions hd
      foreign (sources d hd).1 (sources d hd).2
    rw [own] at taken
    cases taken

theorem mem_types_iff {d : TypeDefinition} :
    d ∈ u.types ↔ (∃ e ∈ s.types, s.unfoldedType e = d) ∨ d ∈ s.addedTypes.values := by
  rw [unfolds.tables.types_eq, List.mem_append, List.mem_map]

theorem references (resolvable : ∀ d ∈ s.types, ∀ x ∈ d.lookedUp, Resolvable s.types x)
    {d : TypeDefinition} (hd : d ∈ u.types) {x : String} (hx : x ∈ d.lookedUp) :
    Unmarked x ∧ ((u.get? x).isSome ∨ (builtin? x).isSome) := by
  rcases unfolds.mem_types_iff.mp hd with ⟨e, he, rfl⟩ | added
  · exact unfolds.references_unfoldedType resolvable he hx
  · rw [(unfolds.plain_of_mem_addedTypes added).1] at hx
    cases hx

theorem plain (resolvable : ∀ d ∈ s.types, ∀ x ∈ d.lookedUp, Resolvable s.types x)
    (sources : s.SourcesDeclared) : u.Plain where
  unmarked := fun d hd x hx => (unfolds.references resolvable hd hx).1
  own := fun d hd => by
    rcases unfolds.mem_types_iff.mp hd with ⟨e, he, rfl⟩ | added
    · exact unfolds.hasForeignItems_unfoldedType sources he
    · exact (unfolds.plain_of_mem_addedTypes added).2.2

end Unfolds

section Plain

variable {s : Schema} (plain : s.Plain) (tables : Tables s.info s.types s.limits s)
include plain tables

theorem Plain.lookup_extensions (key : String) : s.extensions.lookup key = none := by
  have apart : key ∉ s.types.flatMap (·.markedReferences) := by
    intro member
    obtain ⟨d, hd, stands⟩ := List.mem_flatMap.mp member
    obtain ⟨looked, marked⟩ := TypeDefinition.mem_markedReferences_iff.mp stands
    exact (plain.unmarked d hd key looked).not_marked marked
  rw [Extensions.lookup_ofTypes tables.distinct tables.extensions, if_neg apart, Option.or_none]
  cases declared : declared? s.types key with
  | none => rfl
  | some d =>
    exact Extensions.own?_of_not_hasForeignItems (plain.own d (mem_of_declared? declared).1)

/-- A schema with nothing left to unfold is its own unfolded form. -/
theorem Plain.unfold (order : HashOrder) : s.unfold order = .ok s := by
  have items : ∀ d, s.withItems d = d := by
    intro d
    unfold withItems
    rw [plain.lookup_extensions tables]
  have types : s.types.map s.unfoldedType = s.types := by
    refine List.map_congr_left (fun d hd => ?_) |>.trans (List.map_id _)
    rw [unfoldedType, items]
    exact TypeDefinition.mapMarkedReferences_eq_self (plain.unmarked d hd)
  have added : s.addedTypes = [] := by
    have unchanged : ∀ (names : List String), names.foldl s.addMarked [] = [] := by
      intro names
      induction names with
      | nil => rfl
      | cons x names ih =>
        rw [List.foldl_cons]
        unfold addMarked
        rw [plain.lookup_extensions tables]
        exact ih
    exact unchanged _
  have run := s.unfoldedTypes_run
  rw [types, added] at run
  unfold Schema.unfold
  rw [run]
  simpa [Dict.values] using build_of_tables tables

end Plain

/-- Unfolding removes every marked reference and lists the items of every enumeration, if
references lead somewhere and items come from declared types. Definitions keep their names and
their order, what is added goes by the names of enumerations, and unfolding once more changes
nothing. -/
theorem Built.unfold_complete {s u : Schema} {order : HashOrder} (built : s.Built)
    (names : ∀ d ∈ s.types, Name.isTypeName d.name = true)
    (resolvable : ∀ d ∈ s.types, ∀ x ∈ d.lookedUp, Resolvable s.types x)
    (sources : s.SourcesDeclared) (h : s.unfold order = .ok u) :
    (∀ d ∈ u.types, ∀ x ∈ d.lookedUp,
        Unmarked x ∧ ((u.get? x).isSome ∨ (builtin? x).isSome)) ∧
      (∀ d ∈ u.types, d.hasForeignItems = false) ∧
        (∃ kept added, u.types = kept ++ added ∧ kept.map (·.name) = s.typeNames ∧
          ∀ e ∈ added, e.isEnumeration = true ∧
            ∃ t ∈ s.types, e.name = TypeDefinition.enumerationName t.name) ∧
          ∀ order', u.unfold order' = .ok u := by
  have unfolds : Unfolds s u :=
    ⟨built, fun d hd => (plain_of_isTypeName (names d hd)).2, unfold_eq_ok h⟩
  have plain := unfolds.plain resolvable sources
  refine ⟨fun d hd x hx => unfolds.references resolvable hd hx, plain.own, ?_,
    plain.unfold unfolds.tables.own⟩
  refine ⟨s.types.map s.unfoldedType, s.addedTypes.values, unfolds.tables.types_eq, ?_, ?_⟩
  · rw [List.map_map]
    exact List.map_congr_left fun d hd => unfolds.name_unfoldedType hd
  · intro e added
    obtain ⟨t, declared, -, named, -⟩ := unfolds.derived_of_mem_addedTypes added
    exact ⟨(unfolds.plain_of_mem_addedTypes added).2.1, t, (mem_of_declared? declared).1, named⟩

def requests : Schema where
  info := { package := "requests" }
  types := [
    { name := "Request", options := {}, description := "", kind := .record [
      .new 1 "on" "#Target", .new 2 "part" "#Part"] },
    { name := "Target", options := {}, description := "",
      kind := .choice [.new 1 "file" "String"] },
    { name := "Part", options := { pointer := some "Request" }, description := "",
      kind := .enumerated [] }]
  limits := {}
  extensions := [
    ("#Target", {
      name := "Enum-Target", options := {}, description := "Derived Enumerated from Target"
      kind := .enumerated [⟨1, "file", ""⟩] }),
    ("#Part", {
      name := "Part", options := { pointer := some "Request" }, description := ""
      kind := .enumerated [] }),
    ("Part", {
      name := "Part", options := { pointer := some "Request" }, description := ""
      kind := .enumerated [⟨1, "on", ""⟩, ⟨2, "part", ""⟩] })]
  fieldTypes := []
  patterns := []

/-- One enumeration is added, and the declared one is used as it is. -/
theorem unfold_complete_requests :
    ∃ u, requests.Built ∧ (∀ d ∈ requests.types, Name.isTypeName d.name = true) ∧
      (∀ d ∈ requests.types, ∀ x ∈ d.lookedUp, Resolvable requests.types x) ∧
        requests.SourcesDeclared ∧ requests.unfold .entered = .ok u ∧
          u.typeNames = ["Request", "Target", "Part", "Enum-Target"] ∧
            u.types.flatMap (·.lookedUp) = ["Enum-Target", "Part", "String"] ∧
              (∀ d ∈ u.types, d.hasForeignItems = false) ∧ u.unfold .reversed = .ok u := by
  have built : requests.Built := ⟨by decide, .entered, rfl⟩
  have names : ∀ d ∈ requests.types, Name.isTypeName d.name = true := by decide
  have resolvable : ∀ d ∈ requests.types, ∀ x ∈ d.lookedUp, Resolvable requests.types x := by
    unfold Resolvable
    decide
  have sources : requests.SourcesDeclared := by
    intro d hd
    rcases List.mem_cons.mp hd with rfl | later
    · exact ⟨nofun, nofun⟩
    · rcases List.mem_pair.mp later with rfl | rfl
      · exact ⟨nofun, nofun⟩
      · exact ⟨nofun, fun a target => by cases target; rfl⟩
  have unfolds : (requests.unfold .entered).toOption.map (fun u =>
        (u.typeNames, u.types.flatMap (·.lookedUp))) =
      some (["Request", "Target", "Part", "Enum-Target"], ["Enum-Target", "Part", "String"]) := by
    decide +kernel
  obtain ⟨u, done, listed⟩ := Option.map_eq_some_iff.mp unfolds
  obtain ⟨typeNames, references⟩ := Prod.mk.inj listed
  have done := Except.toOption_eq_some_iff.mp done
  obtain ⟨-, own, -, again⟩ := built.unfold_complete names resolvable sources done
  exact ⟨u, built, names, resolvable, sources, done, typeNames, references, own, again _⟩

end Schema

end Jadn
