import Jadn.Proofs.Validation.Alike

/-!
Null members of maps and records.

A member that is null is no value of its field, so an object means the same with it and without it:
its keys stay apart, expansion keeps the null, and no check looks at it. Only the count of members
includes it. So the verdict is the same, wherever in an instance the object stands, if the number of
its members is within bounds with the null as it is without.
-/

set_option autoImplicit false

namespace Jadn.Validation

open Expansion

section Nulls

variable {s : Schema} {d : TypeDefinition} {f : Field}

theorem Admits.of_perm {check : Field → Json → Outcome} {speaks : String → Field → Prop}
    {ms ns : Dict Json} (admits : Admits s check d speaks ms) (order : ms.Perm ns) :
    Admits s check d speaks ns := by
  refine admits.of_related (rel_of_perm (rel_of_forall₂ ?_) order)
  exact List.forall₂_same.mpr fun p _ => ⟨rfl, rfl, fun _ _ _ => id⟩

theorem keysApart_of_perm {keys keys' : List String} (order : keys.Perm keys') :
    d.KeysApart keys ↔ d.KeysApart keys' :=
  order.pairwise_iff fun apart f own theirs => apart f theirs own

theorem keysApart_cons_iff {key : String} {keys : List String} (own : d.Denotes key f)
    (absent : ∀ other ∈ keys, ¬ d.Denotes other f) :
    d.KeysApart (key :: keys) ↔ d.KeysApart keys := by
  refine List.pairwise_cons.trans (and_iff_right fun other hother g denoted => ?_)
  obtain rfl := Option.some.inj (own.symm.trans denoted)
  exact absent other hother

/-- A null under the key of a field that no other key denotes makes no difference to what an object
is asked, its number of members apart. -/
theorem admits_cons_null_iff (formed : d.WellFormed) {check : Field → Json → Outcome}
    {ms : Dict Json} (listed : f ∈ d.fields)
    (absent : ∀ key ∈ ms.keys, ¬ d.Denotes key f)
    (fits : CountFits s d ms.length ↔ CountFits s d (ms.length + 1)) :
    Admits s check d d.Prints ms ↔
      Admits s check d d.Prints ((verboseKey f d.options.byId, .null) :: ms) := by
  have own : d.Denotes (verboseKey f d.options.byId) f := formed.denotes_of_prints ⟨listed, rfl⟩
  constructor
  · intro admits
    have count := fits.mp ⟨admits.limited, admits.atLeast, admits.atMost⟩
    refine ⟨?_, ?_, ?_, ?_, count.atLeast, count.atMost, count.limited⟩
    · exact (keysApart_cons_iff own absent).mpr admits.apart
    · refine List.forall_mem_cons.mpr ⟨.inr ?_, admits.declared⟩
      rw [show d.fieldOfKey? (verboseKey f d.options.byId) = some f from own]
      rfl
    · intro g hg required
      obtain ⟨key, v, member, given⟩ := admits.given g hg required
      exact ⟨key, v, List.mem_cons_of_mem _ member, given⟩
    · intro key v g member given printed
      rcases List.mem_cons.mp member with same | rest
      · cases same
        cases given
      · exact admits.checked key v g rest given printed
  · intro admits
    have count := fits.mpr ⟨admits.limited, admits.atLeast, admits.atMost⟩
    refine ⟨(keysApart_cons_iff own absent).mp admits.apart,
      (List.forall_mem_cons.mp admits.declared).2,
      ?_, ?_, count.atLeast, count.atMost, count.limited⟩
    · intro g hg required
      obtain ⟨key, v, member, given, printed⟩ := admits.given g hg required
      rcases List.mem_cons.mp member with same | rest
      · cases same
        cases given
      · exact ⟨key, v, rest, given, printed⟩
    · exact fun key v g member => admits.checked key v g (List.mem_cons_of_mem _ member)

/-- So it makes none to whether the object is accepted. -/
theorem accepted_null_iff {inner : Checker} (formed : d.WellFormed)
    (kind : d.baseType = .map ∨ d.baseType = .record) {before after : Dict Json}
    (listed : f ∈ d.fields)
    (absent : ∀ key ∈ (before ++ after : Dict Json).keys, ¬ d.Denotes key f)
    (fits : CountFits s d (before ++ after).length ↔ CountFits s d ((before ++ after).length + 1)) :
    checkLevel s inner d (.obj (before ++ after)) = .ok () ↔
      checkLevel s inner d (.obj (before ++ (verboseKey f d.options.byId, .null) :: after)) =
        .ok () := by
  have order : ((verboseKey f d.options.byId, Json.null) :: (before ++ after)).Perm
      (before ++ (verboseKey f d.options.byId, .null) :: after) := List.perm_middle.symm
  rw [checkLevel_of_members kind, checkLevel_of_members kind, checkMap_obj_eq_ok_iff formed,
    checkMap_obj_eq_ok_iff formed, admits_cons_null_iff formed listed absent fits]
  exact ⟨fun admits => admits.of_perm order, fun admits => admits.of_perm order.symm⟩

theorem expandMember_null (built : s.Built) (formed : d.WellFormed) (listed : f ∈ d.fields)
    (depth : Nat) : expandMember d (expandField s (expandLevels s depth) d)
      (verboseKey f d.options.byId, .null) = (verboseKey f d.options.byId, .null) := by
  have own : d.fieldOfKey? (verboseKey f d.options.byId) = some f :=
    formed.denotes_of_prints ⟨listed, rfl⟩
  have null : expandField s (expandLevels s depth) d f .null = .null :=
    (settled_expandLevels built depth).expandField_of_isNull rfl
  simp only [expandMember, own, null]
  cases mode : d.options.byId <;> simp [verboseKey]

theorem alike_null (built : s.Built) (denoted : s.Denotes d)
    (kind : d.baseType = .map ∨ d.baseType = .record) {before after : Dict Json}
    (listed : f ∈ d.fields) (absent : ∀ key ∈ (before ++ after : Dict Json).keys, ¬ d.Denotes key f)
    (fits : CountFits s d (before ++ after).length ↔ CountFits s d ((before ++ after).length + 1)) :
    Alike s d (.obj (before ++ after))
      (.obj (before ++ (verboseKey f d.options.byId, .null) :: after)) := by
  have formed := built.wellFormed_of_denotes denoted
  have own : d.Denotes (verboseKey f d.options.byId) f := formed.denotes_of_prints ⟨listed, rfl⟩
  have plain : ∀ levels, checkLevel s (checkLevels s levels) d (.obj (before ++ after)) = .ok () ↔
      checkLevel s (checkLevels s levels) d
        (.obj (before ++ (verboseKey f d.options.byId, .null) :: after)) = .ok () :=
    fun levels => accepted_null_iff formed kind listed absent fits
  have apart : d.KeysApart (before ++ after : Dict Json).keys ↔ d.KeysApart
      (before ++ (verboseKey f d.options.byId, .null) :: after : Dict Json).keys := by
    have order : ((verboseKey f d.options.byId, Json.null) :: (before ++ after)).Perm
        (before ++ (verboseKey f d.options.byId, .null) :: after) := List.perm_middle.symm
    rw [← keysApart_cons_iff own absent]
    exact keysApart_of_perm (order.map Prod.fst)
  refine .of_levels rfl plain fun levels depth => ?_
  rw [expandLevel_of_members (.inr kind), expandLevel_of_members (.inr kind), expandObject,
    expandObject, repeatsField_congr formed apart]
  cases repeatsField d (before ++ (verboseKey f d.options.byId, .null) :: after) with
  | true => exact plain levels
  | false =>
    simp only [List.map_append, List.map_cons, expandMember_null built formed listed,
      Bool.false_eq_true, if_false]
    apply accepted_null_iff formed kind listed
    · intro key hkey denoted
      rw [← List.map_append] at hkey
      obtain ⟨_, expanded, rfl⟩ := List.mem_map.mp hkey
      obtain ⟨old, member, rfl⟩ := List.mem_map.mp expanded
      rw [TypeDefinition.Denotes, fieldOfKey?_expandMember formed] at denoted
      exact absent old.1 (List.mem_map_of_mem member) denoted
    · simpa using fits

/-- A null member is added to an object: to the instance itself, or inside fields of it. -/
inductive Nulled (s : Schema) : TypeDefinition → Json → Json → Prop where
  | here {d : TypeDefinition} {f : Field} {before after : Dict Json}
      (kind : d.baseType = .map ∨ d.baseType = .record) (listed : f ∈ d.fields)
      (absent : ∀ key ∈ (before ++ after : Dict Json).keys, ¬ d.Denotes key f)
      (fits : CountFits s d (before ++ after).length ↔
        CountFits s d ((before ++ after).length + 1)) :
      Nulled s d (.obj (before ++ after))
        (.obj (before ++ (verboseKey f d.options.byId, .null) :: after))
  | inside {d t : TypeDefinition} {f : Field} {x y v w a b : Json}
      (type : s.fieldType? d.name f = some t) (nulled : Nulled s t x y)
      (value : InField f x y v w) (node : InNode d f v w a b) : Nulled s d a b

/-- A null member makes no difference, as far as the number of members allows it. -/
theorem Nulled.alike (built : s.Built) {v w : Json} (nulled : Nulled s d v w)
    (denoted : s.Denotes d) : Alike s d v w := by
  induction nulled with
  | here kind listed absent fits => exact alike_null built denoted kind listed absent fits
  | inside type _ value node ih =>
    have inner := ih (Or.inr ⟨_, _, type⟩)
    exact alike_of_inNode built denoted (alikeAt_of_alike built type inner value) node

end Nulls
end Jadn.Validation

namespace Jadn.Schema

open Validation

/-- A null member of a declared field that no other key denotes does not change whether an instance
is accepted, wherever below fields the object stands, if the number of members of that object is
within bounds with it exactly if it is without it. -/
theorem Built.isValid_nulled {s : Schema} (built : s.Built) {name : String} {d : TypeDefinition}
    (found : s.lookup? name = some d) {v w : Json} (nulled : Nulled s d v w) :
    s.isValid name v = s.isValid name w := by
  have alike := nulled.alike built (.inl ⟨name, found⟩)
  have same := alike.agree (s.limits.maxDepth + 1) (s.limits.maxDepth + 1)
  rw [Bool.eq_iff_iff, isValid, isValid, validate, validate, found]
  simp only [isOk_under_iff]
  exact same

def contact : TypeDefinition where
  name := "Contact"
  options := {}
  description := ""
  kind := .map [
    { id := 1, name := "mail", typeRef := "String", options := { minc := some 0 },
      description := "" },
    { id := 2, name := "phone", typeRef := "String", options := { minc := some 0 },
      description := "" }]

def person : TypeDefinition where
  name := "Person"
  options := {}
  description := ""
  kind := .record [.new 1 "name" "String", .new 2 "contact" "Contact"]

def label : TypeDefinition where
  name := "Label"
  options := { maxv := some 1 }
  description := ""
  kind := .record [.new 1 "text" "String",
    { id := 2, name := "note", typeRef := "String", options := { minc := some 0 },
      description := "" }]

def people : Schema where
  info := {}
  types := [contact, person, label]
  limits := {}
  extensions := []
  fieldTypes := []
  patterns := []

/-- The note is optional and not given, and the null in its place is one member too many. -/
theorem isValid_label_nulls :
    (∃ f ∈ label.fields, f.isRequired = false ∧ verboseKey f label.options.byId = "note" ∧
      ¬ label.Denotes "text" f) ∧
    people.isValid "Label" (.obj [("text", .str "fragile")]) = true ∧
      people.isValid "Label" (.obj [("text", .str "fragile"), ("note", .null)]) = false := by
  refine ⟨⟨label.fields[1], List.getElem_mem _, rfl, rfl, fun denoted => ?_⟩, rfl, rfl⟩
  have other : label.fieldOfKey? "text" = some (.new 1 "text" "String") := rfl
  cases other.symm.trans denoted

theorem people_built : people.Built := ⟨by decide, .entered, rfl⟩

/-- A null for the phone in the contact of a person. -/
theorem isValid_nulled_person :
    people.Built ∧ people.lookup? "Person" = some person ∧
      people.isValid "Person" (.obj [("name", .str "Ada"),
          ("contact", .obj [("mail", .str "a@b")])]) =
        people.isValid "Person" (.obj [("name", .str "Ada"),
          ("contact", .obj [("mail", .str "a@b"), ("phone", .null)])]) := by
  have found : people.lookup? "Person" = some person := rfl
  have absent : ∀ key ∈ Dict.keys ([("mail", Json.str "a@b")] ++ []),
      ¬ contact.Denotes key contact.fields[1] := by
    intro key hkey denoted
    obtain rfl := List.mem_singleton.mp hkey
    have other : contact.fieldOfKey? "mail" = some contact.fields[0] := rfl
    cases other.symm.trans denoted
  have added : Nulled people contact (.obj ([("mail", .str "a@b")] ++ []))
      (.obj ([("mail", .str "a@b")] ++ [("phone", .null)])) :=
    .here (.inl rfl) (List.getElem_mem _) absent
      ⟨fun _ => ⟨by decide, by decide, by decide⟩, fun _ => ⟨by decide, by decide, by decide⟩⟩
  have named : person.Denotes "contact" person.fields[1] := rfl
  have nulled := Nulled.inside (d := person) rfl added (.whole (.inl rfl))
    (.member (.inr (.inr rfl)) named [("name", .str "Ada")] [])
  exact ⟨people_built, found, people_built.isValid_nulled found nulled⟩

end Jadn.Schema
