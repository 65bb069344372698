import Jadn.Proofs.Schema.Unfolded

/-!
Unfolding a schema keeps what its types accept.

A marked reference is replaced by the name of the enumeration that it denotes. Where that name
is declared, nothing is added under it, so what is declared there has to be that enumeration.
Then the references of the schema denote in turn what matches in the unfolded schema.
-/

set_option autoImplicit false

namespace Jadn

theorem ofName?_enumerationName (name : String) :
    BaseType.ofName? (TypeDefinition.enumerationName name) = none :=
  ofName?_of_hyphen (by simp [TypeDefinition.enumerationName])

namespace Schema

/-- Every reference names a base type or a definition. -/
def Grounded (s : Schema) : Prop :=
  ∀ d ∈ s.types, ∀ x ∈ d.referredNames, (BaseType.ofName? x).isSome ∨ x ∈ s.typeNames

/-- Where the name of the enumeration that a marked reference denotes is declared, it denotes
that enumeration as well. -/
def EnumerationsAgree (s : Schema) : Prop :=
  ∀ a ∈ s.types.flatMap (·.markedReferences), ∀ e, s.lookup? a = some e →
    ∀ t, s.lookup? e.name = some t → t.kind = e.kind ∧ t.options = e.options

structure Unfolded (s u : Schema) : Prop where
  built : s.Built
  unmarked : ∀ d ∈ s.types, Unmarked d.name
  grounded : s.Grounded
  tables : Tables s.info (s.types.map s.unfoldedType ++ s.addedTypes.values) s.limits u

namespace Unfolded

variable {s u : Schema} (unfolded : Unfolded s u)
include unfolded

theorem unfolds : Unfolds s u :=
  ⟨unfolded.built, unfolded.unmarked, unfolded.tables⟩

theorem get?_eq_none {a : String}
    (known : (BaseType.ofName? (splitMarker a).2).isSome ∨ (splitMarker a).2 ∈ s.typeNames)
    (undeclared : s.get? a = none) : u.get? a = none := by
  cases found : u.get? a with
  | none => rfl
  | some e =>
    exfalso
    obtain ⟨d, -, -, rfl, -⟩ := unfolded.unfolds.derived_of_added undeclared found
    have plain := splitMarker_of_unmarked (unmarked_enumerationName d.name)
    rw [plain] at known
    rcases known with base | declared
    · simp [ofName?_enumerationName] at base
    · exact get?_eq_none_iff.mp undeclared declared

theorem get?_eq_none_of_name {x : String}
    (known : (BaseType.ofName? x).isSome ∨ x ∈ s.typeNames) (undeclared : s.get? x = none) :
    u.get? x = none := by
  rcases known with base | declared
  · refine unfolded.get?_eq_none (Or.inl ?_) undeclared
    rwa [splitMarker_of_unmarked (unmarked_of_baseType base)]
  · exact absurd declared (get?_eq_none_iff.mp undeclared)

end Unfolded

/-- What is put in place of a reference that stands in the schema. -/
def UnfoldsTo (s : Schema) (a b : String) : Prop :=
  b = unmark s.unfoldedName a ∧
    ((splitMarker a).1 = true → a ∈ s.types.flatMap (·.markedReferences)) ∧
      ((BaseType.ofName? (splitMarker a).2).isSome ∨ (splitMarker a).2 ∈ s.typeNames)

theorem unfoldsTo_of_unmarked {s : Schema} {x : String} (unmarked : Unmarked x)
    (declared : x ∈ s.typeNames) : s.UnfoldsTo x x := by
  have plain : (splitMarker x).1 = false := unmarked
  refine ⟨by simp [unmark, plain], by simp [plain], Or.inr ?_⟩
  rwa [splitMarker_of_unmarked unmarked]

namespace Unfolded

variable {s u : Schema} (unfolded : Unfolded s u)
include unfolded

theorem unfoldsTo_of_lookedUp {d : TypeDefinition} (hd : d ∈ s.types) {a : String}
    (ha : a ∈ d.lookedUp) : s.UnfoldsTo a (unmark s.unfoldedName a) := by
  refine ⟨rfl, fun marked => ?_, unfolded.grounded d hd _
    (TypeDefinition.mem_referredNames_of_lookedUp ha)⟩
  exact List.mem_flatMap.mpr ⟨d, hd, TypeDefinition.mem_markedReferences_iff.mpr ⟨ha, marked⟩⟩

/-- The references of a definition agree with those of its unfolded form. -/
theorem agree {d : TypeDefinition} (hd : d ∈ s.types) :
    (s.withItems d).options.Agree s.UnfoldsTo (s.unfoldedType d).options ∧
      (s.withItems d).kind.Alike (Field.Matches s.UnfoldsTo) (s.unfoldedType d).kind := by
  refine TypeDefinition.agree_mapMarkedReferences fun a ha => ?_
  rw [unfolded.unfolds.lookedUp_withItems hd] at ha
  exact unfolded.unfoldsTo_of_lookedUp hd ha

theorem baseType_unfoldedType {d : TypeDefinition} (hd : d ∈ s.types) :
    (s.unfoldedType d).baseType = d.baseType := by
  have same : (s.withItems d).baseType = d.baseType := by
    rw [unfolded.unfolds.withItems_eq hd]
    cases own : Extensions.own? s.types d with
    | none => rfl
    | some e =>
      obtain ⟨items', kind⟩ := Extensions.enumerated_of_own? own
      obtain ⟨items, -, rfl⟩ := Option.map_eq_some_iff.mp own
      exact (congrArg Kind.baseType kind).symm
  exact (unfolded.agree hd).2.baseType.symm.trans same

theorem toEnumeration_unfoldedType {d : TypeDefinition} (hd : d ∈ s.types)
    (none : d.toEnumeration.toOption = none) :
    (s.unfoldedType d).toEnumeration.toOption = Option.none := by
  have memberless : d.hasFields = false := by
    rw [← (unfolded.built.wellFormed d hd).toEnumeration_isSome, none]
    rfl
  have memberless' : (s.unfoldedType d).hasFields = false := by
    rw [← memberless]
    exact congrArg BaseType.hasFields (unfolded.baseType_unfoldedType hd)
  exact TypeDefinition.toEnumeration_of_not_hasFields memberless'

theorem derived?_eq_none {a : String}
    (known : (BaseType.ofName? (splitMarker a).2).isSome ∨ (splitMarker a).2 ∈ s.typeNames)
    (undenoted : Extensions.derived? s.types a = none) :
    Extensions.derived? u.types a = none := by
  unfold Extensions.derived? at undenoted ⊢
  cases found : s.get? (splitMarker a).2 with
  | none =>
    rw [show declared? u.types (splitMarker a).2 = none from
      unfolded.get?_eq_none_of_name known found]
    rfl
  | some d =>
    rw [show declared? s.types (splitMarker a).2 = some d from found] at undenoted
    rw [show declared? u.types (splitMarker a).2 = some (s.unfoldedType d) from
      (unfolded.unfolds.get?_of_get? found).2]
    exact unfolded.toEnumeration_unfoldedType (mem_of_declared? found).1 undenoted

theorem taken_unfoldedType {d : TypeDefinition} (hd : d ∈ s.types)
    (own : Extensions.own? s.types d = none) :
    (Extensions.items? u.types (s.unfoldedType d)).toOption.join = none := by
  have form : s.withItems d = d := by rw [unfolded.unfolds.withItems_eq hd, own]
  have enumeration : (s.unfoldedType d).options.enumeration = d.options.enumeration := by
    rw [unfoldedType, form]
    rfl
  have pointer : (s.unfoldedType d).options.pointer = d.options.pointer := by
    rw [unfoldedType, form]
    rfl
  have untaken : (Extensions.items? s.types d).toOption.join = none := by
    simpa [Extensions.own?] using own
  have known : ∀ a, (splitMarker a).2 ∈ d.options.references →
      (BaseType.ofName? (splitMarker a).2).isSome ∨ (splitMarker a).2 ∈ s.typeNames :=
    fun a ha => unfolded.grounded d hd _ (List.mem_append_left _ ha)
  by_cases enumerated : ∃ items, (s.unfoldedType d).kind = .enumerated items
  · obtain ⟨items, kind'⟩ := enumerated
    have kind : d.kind = .enumerated items := by
      have kinds := (unfolded.agree hd).2
      rw [form, kind'] at kinds
      generalize d.kind = k at kinds ⊢
      cases kinds
      rfl
    cases source : d.options.enumeration with
    | some a =>
      rw [Extensions.taken_of_enumeration kind source, Option.map_eq_none_iff] at untaken
      have reached := known a (by simp [Options.references, source])
      rw [Extensions.taken_of_enumeration kind' (enumeration.trans source),
        unfolded.derived?_eq_none reached untaken, Option.map_none]
    | none =>
      cases target : d.options.pointer with
      | none => exact Extensions.taken_of_none (enumeration.trans source) (pointer.trans target)
      | some a =>
        rw [Extensions.taken_of_pointer kind source target, Option.map_eq_none_iff] at untaken
        have reached := known a (by simp [Options.references, target])
        rw [Extensions.taken_of_pointer kind' (enumeration.trans source) (pointer.trans target),
          show declared? u.types a = none from unfolded.get?_eq_none reached untaken]
        rfl
  · exact Extensions.taken_of_other enumerated

theorem own?_unfoldedType {d : TypeDefinition} (hd : d ∈ s.types) :
    Extensions.own? u.types (s.unfoldedType d) = none := by
  have taken : (Extensions.items? u.types (s.unfoldedType d)).toOption.join = none := by
    cases own : Extensions.own? s.types d with
    | some e =>
      have form := unfolded.unfolds.withItems_eq hd
      rw [own] at form
      apply Extensions.taken_of_none
      · rw [unfoldedType, form]
        rfl
      · rw [unfoldedType, form]
        rfl
    | none => exact unfolded.taken_unfoldedType hd own
  rw [Extensions.own?, taken]
  rfl

/-- A declared name denotes what matches in the unfolded schema. -/
theorem lookup?_of_declared {x : String} (unmarked : Unmarked x) {d : TypeDefinition}
    (found : s.get? x = some d) :
    ∃ t t', s.lookup? x = some t ∧ u.lookup? x = some t' ∧ Matched s u s.UnfoldsTo t t' := by
  obtain ⟨hd, -⟩ := mem_of_declared? found
  obtain ⟨member, found'⟩ := unfolded.unfolds.get?_of_get? found
  have own' : u.lookup? x = some (s.unfoldedType d) := by
    rw [unfolded.tables.own.lookup?_of_unmarked unmarked,
      show declared? u.types x = some (s.unfoldedType d) from found', Option.bind_some,
      unfolded.own?_unfoldedType hd]
    rfl
  have tables := unfolded.built.tables
  have form := unfolded.unfolds.withItems_eq hd
  obtain ⟨options, kind⟩ := unfolded.agree hd
  cases own : Extensions.own? s.types d with
  | some t =>
    rw [own] at form
    refine ⟨t, _, ?_, own', ?_⟩
    · rw [tables.lookup?_of_unmarked unmarked, show declared? s.types x = some d from found,
        Option.bind_some, own]
      rfl
    · obtain ⟨items, -, rfl⟩ := Option.map_eq_some_iff.mp own
      rw [form] at options kind
      refine ⟨{ options with }, ?_⟩
      generalize (s.unfoldedType d).kind = k at kind ⊢
      cases kind
      exact .enumerated items
  | none =>
    rw [own] at form
    rw [form] at options kind
    refine ⟨d, _, ?_, own', ?_⟩
    · rw [tables.lookup?_of_unmarked unmarked, show declared? s.types x = some d from found,
        Option.bind_some, own]
      rfl
    · exact .of_declared tables unfolded.tables.own hd member
        (unfolded.built.wellFormed d hd).fieldNames options kind

omit unfolded in
/-- What is an enumeration matches whatever another enumeration of its items does. -/
theorem matched_enumeration {e t t' : TypeDefinition} {items : List Item}
    (kind : e.kind = .enumerated items) (same : t.kind = e.kind ∧ t.options = e.options)
    (matched : Matched s u s.UnfoldsTo t t') : Matched s u s.UnfoldsTo e t' := by
  obtain ⟨options, kinds⟩ := matched
  refine ⟨same.2 ▸ options, ?_⟩
  rw [same.1, kind] at kinds
  rw [kind]
  generalize t'.kind = k at kinds ⊢
  cases kinds
  exact .enumerated items

theorem looked_of_unmarked {a : String} (unmarked : Unmarked a)
    (known : (BaseType.ofName? (splitMarker a).2).isSome ∨ (splitMarker a).2 ∈ s.typeNames) :
    Option.Rel (Matched s u s.UnfoldsTo) (s.lookup? a) (u.lookup? a) := by
  cases found : s.get? a with
  | some d =>
    obtain ⟨t, t', looked, looked', matched⟩ := unfolded.lookup?_of_declared unmarked found
    rw [looked, looked']
    exact .some matched
  | none =>
    have found' := unfolded.get?_eq_none known found
    rw [unfolded.built.tables.lookup?_of_unmarked unmarked,
      unfolded.tables.own.lookup?_of_unmarked unmarked,
      show declared? s.types a = none from found, show declared? u.types a = none from found']
    exact matched_builtin a

theorem looked_of_derived (agreed : s.EnumerationsAgree) {a : String} {e : TypeDefinition}
    (marked : (splitMarker a).1 = true) (stands : a ∈ s.types.flatMap (·.markedReferences))
    (denoted : Extensions.derived? s.types a = some e) :
    Option.Rel (Matched s u s.UnfoldsTo) (some e) (u.lookup? e.name) := by
  obtain ⟨d, -, derived⟩ := Extensions.derived?_eq_some_iff.mp denoted
  obtain ⟨⟨items, kind⟩, -⟩ := TypeDefinition.toEnumeration_eq_ok derived
  have unmarked := unfolded.unfolds.unmarked_of_derived denoted
  cases found : s.get? e.name with
  | some d' =>
    obtain ⟨t, t', looked, looked', matched⟩ := unfolded.lookup?_of_declared unmarked found
    have undeclared := unfolded.unfolds.get?_of_marked marked
    have reached := unfolded.built.tables.lookup?_of_marked undeclared marked stands
    have same := agreed a stands e (reached.trans denoted) t looked
    rw [looked']
    exact .some (matched_enumeration kind same matched)
  | none =>
    have found' := unfolded.unfolds.get?_enumeration marked stands denoted found
    obtain ⟨b, -, -, -, options⟩ := unfolded.unfolds.derived_of_undeclared denoted found
    have own : Extensions.own? u.types e = none := by
      rw [Extensions.own?, Extensions.taken_of_none (by rw [options]) (by rw [options])]
      rfl
    rw [unfolded.tables.own.lookup?_of_unmarked unmarked,
      show declared? u.types e.name = some e from found', Option.bind_some, own]
    have listed : e.Listed e := ⟨items, b.options.byId, options, options, kind, kind⟩
    exact .some listed.matched

/-- A reference denotes what matches that for which it is unfolded. -/
theorem looked (agreed : s.EnumerationsAgree) (a b : String) (stands : s.UnfoldsTo a b) :
    Option.Rel (Matched s u s.UnfoldsTo) (s.lookup? a) (u.lookup? b) := by
  obtain ⟨rfl, listed, known⟩ := stands
  cases marked : (splitMarker a).1 with
  | false =>
    rw [unmark, marked, if_neg Bool.false_ne_true]
    exact unfolded.looked_of_unmarked marked known
  | true =>
    have stands := listed marked
    have undeclared := unfolded.unfolds.get?_of_marked marked
    rw [unfolded.built.tables.lookup?_of_marked undeclared marked stands]
    rw [unmark, marked, if_pos rfl, unfoldedName, ← splitMarker_of_marked marked,
      unfolded.unfolds.lookup_extensions marked, if_pos stands]
    cases denoted : Extensions.derived? s.types a with
    | none =>
      -- The reference stays as it is, and denotes nothing in the unfolded schema either.
      have undeclared' := unfolded.get?_eq_none known undeclared
      rw [Option.map_none, Option.getD_none,
        unfolded.tables.own.lookup?_of_undeclared undeclared' marked,
        unfolded.derived?_eq_none known denoted, ite_self]
      exact .none
    | some e =>
      rw [Option.map_some, Option.getD_some]
      exact unfolded.looked_of_derived agreed marked stands denoted

end Unfolded

/-- An unfolded schema accepts the same instances of the types that were declared, if marked
references denote what the names of their enumerations denote where these are declared. -/
theorem unfold_isValid {s u : Schema} {order : HashOrder} (built : s.Built)
    (names : ∀ d ∈ s.types, Name.isTypeName d.name = true) (grounded : s.Grounded)
    (agreed : s.EnumerationsAgree) (h : s.unfold order = .ok u) {name : String}
    (declared : name ∈ s.typeNames) (v : Json) : u.isValid name v = s.isValid name v := by
  have unmarked : ∀ d ∈ s.types, Unmarked d.name := fun d hd =>
    (plain_of_isTypeName (names d hd)).2
  have tables := unfold_eq_ok h
  have unfolded : Unfolded s u := ⟨built, unmarked, grounded, tables⟩
  have bounds := Validation.SameBounds.of_eq tables.limits_eq.symm
    (by rw [config, config, tables.info_eq] : s.config = u.config)
  obtain ⟨d, hd, rfl⟩ := List.mem_map.mp declared
  have stands := unfoldsTo_of_unmarked (unmarked d hd) declared
  have looked := unfolded.looked agreed
  exact ((simulation_of_looked looked built.tables tables.own bounds).isValid_eq
    (looked _ _ stands) v).symm

def commands : Schema where
  info := { package := "commands" }
  types := [
    { name := "Command", options := {}, description := "", kind := .record [.new 1 "on" "#Target"] },
    { name := "Target", options := {}, description := "", kind := .choice [.new 1 "file" "String"] }]
  limits := {}
  extensions := [("#Target", {
    name := "Enum-Target"
    options := {}
    description := "Derived Enumerated from Target"
    kind := .enumerated [⟨1, "file", ""⟩] })]
  fieldTypes := []
  patterns := []

/-- The marked reference becomes one to an enumeration of its own. -/
theorem unfold_commands :
    ∃ u, commands.Built ∧ (∀ d ∈ commands.types, Name.isTypeName d.name = true) ∧
      commands.Grounded ∧ commands.EnumerationsAgree ∧ commands.unfold .entered = .ok u ∧
        "Command" ∈ commands.typeNames ∧ u.typeNames = ["Command", "Target", "Enum-Target"] ∧
          ∀ v, u.isValid "Command" v = commands.isValid "Command" v := by
  have built : commands.Built := ⟨by decide, .entered, rfl⟩
  have names : ∀ d ∈ commands.types, Name.isTypeName d.name = true := by decide
  have grounded : commands.Grounded := by
    unfold Grounded
    decide
  have agreed : commands.EnumerationsAgree := by
    intro a ha e denoted t named
    have listed : commands.types.flatMap (·.markedReferences) = ["#Target"] := by decide
    obtain rfl := List.mem_singleton.mp (listed ▸ ha)
    cases denoted
    cases named
  have unfolds : (commands.unfold .entered).toOption.map typeNames =
      some ["Command", "Target", "Enum-Target"] := by decide +kernel
  obtain ⟨u, done, typeNames⟩ := Option.map_eq_some_iff.mp unfolds
  have done := Except.toOption_eq_some_iff.mp done
  have declared : "Command" ∈ commands.typeNames := by decide
  exact ⟨u, built, names, grounded, agreed, done, declared, typeNames,
    unfold_isValid built names grounded agreed done declared⟩

end Schema

end Jadn
