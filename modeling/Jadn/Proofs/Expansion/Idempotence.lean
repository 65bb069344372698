import Jadn.Proofs.Built
import Jadn.Validation

/-!
Expansion settles an instance: a verbose form expands to itself, and validation answers the
same for an instance and for its verbose form.

The levels of an instance are expanded by one function that takes the function for the next
level as an argument. `Settled` says what that argument has to satisfy, and every number of
levels satisfies it.
-/

set_option autoImplicit false

namespace Jadn.Expansion

/-- What an expander keeps, and that nothing is left to do after it. -/
structure Settled (s : Schema) (inner : Expander) : Prop where
  idempotent : ∀ d, s.Denotes d → ∀ v, inner d (inner d v) = inner d v
  isNull : ∀ d v, (inner d v).isNull = v.isNull
  /-- An array comes only from an array. -/
  arr : ∀ d v xs, inner d v = .arr xs → ∃ ys, v = .arr ys

section Field

variable {s : Schema} {inner : Expander}

theorem expandField_each {owner : TypeDefinition} {f : Field} {d : TypeDefinition} {vs : List Json}
    (type : s.fieldType? owner.name f = some d) (repeated : f.isRepeated = true) :
    expandField s inner owner f (.arr vs) = .arr (vs.map (inner d)) := by
  simp [expandField, type, repeated]

theorem expandField_whole {owner : TypeDefinition} {f : Field} {d : TypeDefinition} {v : Json}
    (type : s.fieldType? owner.name f = some d)
    (single : f.isRepeated = false ∨ v.arr? = none) :
    expandField s inner owner f v = inner d v := by
  cases v with
  | arr vs =>
    rcases single with single | array
    · simp [expandField, type, single]
    · cases array
  | _ => simp [expandField, type]

variable (settled : Settled s inner)
include settled

theorem Settled.expandField_isNull (owner : TypeDefinition) (f : Field) (v : Json) :
    (expandField s inner owner f v).isNull = v.isNull := by
  unfold expandField
  split
  · rfl
  · split
    · split
      · rfl
      · exact settled.isNull _ _
    · exact settled.isNull _ _

theorem Settled.expandField_of_isNull {owner : TypeDefinition} {f : Field} {v : Json}
    (null : v.isNull = true) : expandField s inner owner f v = v := by
  have kept := settled.expandField_isNull owner f v
  rw [null] at kept
  cases v with
  | null => cases made : expandField s inner owner f .null <;> simp_all [Json.isNull]
  | _ => cases null

theorem Settled.expandField_arr {owner : TypeDefinition} {f : Field} {v : Json} {xs : List Json}
    (made : expandField s inner owner f v = .arr xs) : ∃ ys, v = .arr ys := by
  unfold expandField at made
  split at made
  · exact ⟨xs, made⟩
  · split at made
    · exact ⟨_, rfl⟩
    · exact settled.arr _ _ _ made

theorem Settled.expandField_idempotent (owner : TypeDefinition) (f : Field) (v : Json) :
    expandField s inner owner f (expandField s inner owner f v) =
      expandField s inner owner f v := by
  cases found : s.fieldType? owner.name f with
  | none => simp [expandField, found]
  | some d =>
    have again := settled.idempotent d (Or.inr ⟨owner.name, f, found⟩)
    by_cases single : f.isRepeated = false ∨ v.arr? = none
    · have single' : f.isRepeated = false ∨ (inner d v).arr? = none := by
        refine single.imp_right fun none => ?_
        cases made : inner d v with
        | arr xs =>
          obtain ⟨ys, rfl⟩ := settled.arr d v xs made
          cases none
        | _ => rfl
      rw [expandField_whole found single, expandField_whole found single', again]
    · obtain ⟨repeated, xs, rfl⟩ : f.isRepeated = true ∧ ∃ xs, v = .arr xs := by
        cases v <;> simp_all [Json.arr?]
      simp [expandField_each found repeated, Function.comp_def, again]

end Field

section Members

variable {d : TypeDefinition} {expand : Field → Json → Json}

/-- The new key of a member denotes what the old one did. -/
theorem fieldOfKey?_expandMember (formed : d.WellFormed) (expand : Field → Json → Json)
    (member : String × Json) :
    d.fieldOfKey? (expandMember d expand member).1 = d.fieldOfKey? member.1 := by
  obtain ⟨key, v⟩ := member
  cases found : d.fieldOfKey? key with
  | none => simp [expandMember, found]
  | some f =>
    cases mode : d.options.byId with
    | true => simp [expandMember, found, mode]
    | false =>
      have named := formed.fieldNamed? (TypeDefinition.mem_fields_of_fieldOfKey? found)
      simp [expandMember, found, mode, TypeDefinition.fieldOfKey?_of_byName mode, named]

theorem repeatsField_map (formed : d.WellFormed) (expand : Field → Json → Json)
    (members : Dict Json) :
    repeatsField d (members.map (expandMember d expand)) = repeatsField d members := by
  simp [repeatsField, List.filterMap_map, fieldOfKey?_expandMember formed]

theorem expandMember_idempotent (formed : d.WellFormed)
    (again : ∀ f v, expand f (expand f v) = expand f v) (member : String × Json) :
    expandMember d expand (expandMember d expand member) = expandMember d expand member := by
  have key := fieldOfKey?_expandMember formed expand member
  obtain ⟨k, v⟩ := member
  cases found : d.fieldOfKey? k with
  | none => simp [expandMember, found]
  | some f =>
    rw [found] at key
    cases mode : d.options.byId with
    | true => simp [expandMember, found, mode, again]
    | false =>
      simp only [expandMember, found, mode, Bool.false_eq_true, if_false] at key ⊢
      simp [key, again]

theorem expandMember_of_mem_expandValues (formed : d.WellFormed) (mode : d.options.byId = false)
    (again : ∀ f v, expand f (expand f v) = expand f v) {values : List Json}
    {member : String × Json} (h : member ∈ expandValues expand d.fields values) :
    expandMember d expand member = member := by
  obtain ⟨⟨f, v⟩, paired, made⟩ := List.mem_filterMap.mp h
  have hf : f ∈ d.fields := (List.of_mem_zip paired).1
  have key : d.fieldOfKey? f.name = some f := by
    rw [TypeDefinition.fieldOfKey?_of_byName mode, formed.fieldNamed? hf, Option.some_or]
  cases empty : v.isNull with
  | true => simp [empty] at made
  | false =>
    simp only [empty, Bool.false_eq_true, if_false, Option.some.injEq] at made
    subst made
    simp [expandMember, key, mode, again]

theorem expandPlaces_idempotent (again : ∀ f v, expand f (expand f v) = expand f v)
    (isNull : ∀ f v, (expand f v).isNull = v.isNull) (fields : List Field) (values : List Json) :
    expandPlaces expand fields (expandPlaces expand fields values) =
      expandPlaces expand fields values := by
  induction fields generalizing values with
  | nil => simp [expandPlaces]
  | cons f fields ih =>
    cases values with
    | nil => simp [expandPlaces]
    | cons v values =>
      cases empty : v.isNull with
      | true => simp [expandPlaces, empty, ih]
      | false => simp [expandPlaces, empty, isNull, again, ih]

end Members

section Level

variable {s : Schema} {inner : Expander} (settled : Settled s inner)

def expandObject (s : Schema) (inner : Expander) (d : TypeDefinition) (members : Dict Json) :
    Json :=
  if repeatsField d members then .obj members
  else .obj (members.map (expandMember d (expandField s inner d)))

include settled

theorem expandObject_idempotent {d : TypeDefinition} (formed : d.WellFormed)
    (members : Dict Json) :
    ∃ ms, expandObject s inner d members = .obj ms ∧ expandObject s inner d ms = .obj ms := by
  cases aliased : repeatsField d members with
  | true => exact ⟨members, by simp [expandObject, aliased], by simp [expandObject, aliased]⟩
  | false =>
    refine ⟨_, by simp [expandObject, aliased]; rfl, ?_⟩
    have again := expandMember_idempotent formed (settled.expandField_idempotent d)
    simp [expandObject, aliased, repeatsField_map formed, Function.comp_def, again]

theorem expandObject_expandValues {d : TypeDefinition} (formed : d.WellFormed)
    (mode : d.options.byId = false) (values : List Json) :
    expandObject s inner d (expandValues (expandField s inner d) d.fields values) =
      .obj (expandValues (expandField s inner d) d.fields values) := by
  unfold expandObject
  split
  · rfl
  · congr 1
    refine (List.map_congr_left fun member hm => ?_).trans (List.map_id _)
    exact expandMember_of_mem_expandValues formed mode (settled.expandField_idempotent d) hm

/-- A record that is given by its values becomes an object that is expanded. -/
theorem expandLevel_values_idempotent {d : TypeDefinition} {fields : List Field}
    (formed : d.WellFormed) (kind : d.kind = .record fields) (values : List Json) :
    expandLevel s inner d (expandLevel s inner d (.arr values)) =
      expandLevel s inner d (.arr values) := by
  have own : d.fields = fields := congrArg Kind.fields kind
  by_cases kept : (d.options.byId || fields.length < values.length) = true
  · simp [expandLevel, kind, kept]
  · have mode : d.options.byId = false := by simp_all
    have settle := expandObject_expandValues settled formed mode values
    rw [own] at settle
    simp only [expandLevel, kind, kept]
    exact settle

theorem expandLevel_elements_idempotent {d : TypeDefinition}
    (kind : d.kind = .arrayOf ∨ d.kind = .mapOf) (v : Json) :
    expandLevel s inner d (expandLevel s inner d v) = expandLevel s inner d v := by
  cases found : elementType? s d with
  | none => rcases kind with kind | kind <;> cases v <;> simp [expandLevel, kind, found]
  | some e =>
    have again := settled.idempotent e (Schema.denotes_of_bind found)
    rcases kind with kind | kind <;> cases v <;>
      simp [expandLevel, kind, found, Function.comp_def, again]

omit settled in
theorem expandLevel_item_idempotent {d : TypeDefinition} {items : List Item}
    (kind : d.kind = .enumerated items) (v : Json) :
    expandLevel s inner d (expandLevel s inner d v) = expandLevel s inner d v := by
  cases v with
  | int n =>
    cases mode : d.options.byId with
    | true => simp [expandLevel, kind, mode]
    | false =>
      cases found : (Json.int n).int64?.bind fun id => items.find? (·.id == id) with
      | none => simp [expandLevel, kind, mode, expandItem, found]
      | some item => simp [expandLevel, kind, mode, expandItem, found]
  | _ => simp [expandLevel, kind]

theorem expandLevel_idempotent {d : TypeDefinition} (formed : d.WellFormed) (v : Json) :
    expandLevel s inner d (expandLevel s inner d v) = expandLevel s inner d v := by
  have object : ∀ members, (∀ ms, expandLevel s inner d (.obj ms) = expandObject s inner d ms) →
      expandLevel s inner d (expandLevel s inner d (.obj members)) =
        expandLevel s inner d (.obj members) := by
    intro members same
    obtain ⟨ms, first, second⟩ := expandObject_idempotent settled formed members
    rw [same, first, same, second]
  cases kind : d.kind with
  | binary => simp [expandLevel, kind]
  | boolean => simp [expandLevel, kind]
  | integer => simp [expandLevel, kind]
  | number => simp [expandLevel, kind]
  | string => simp [expandLevel, kind]
  | enumerated items => exact expandLevel_item_idempotent kind v
  | choice fields =>
    cases v with
    | obj members =>
      exact object members fun ms => by simp only [expandLevel, kind, expandObject]
    | _ => simp [expandLevel, kind]
  | array fields =>
    cases v with
    | arr values =>
      simp [expandLevel, kind, expandPlaces_idempotent (settled.expandField_idempotent d)
        (settled.expandField_isNull d)]
    | _ => simp [expandLevel, kind]
  | arrayOf => exact expandLevel_elements_idempotent settled (.inl kind) v
  | map fields =>
    cases v with
    | obj members =>
      exact object members fun ms => by simp only [expandLevel, kind, expandObject]
    | _ => simp [expandLevel, kind]
  | mapOf => exact expandLevel_elements_idempotent settled (.inr kind) v
  | record fields =>
    cases v with
    | obj members =>
      exact object members fun ms => by simp only [expandLevel, kind, expandObject]
    | arr values => exact expandLevel_values_idempotent settled formed kind values
    | _ => simp [expandLevel, kind]

end Level

theorem expandItem_isNull (items : List Item) (v : Json) :
    (expandItem items v).isNull = v.isNull := by
  unfold expandItem
  split
  · next item found =>
    cases v with
    | null => simp [Json.int64?] at found
    | _ => rfl
  · rfl

theorem expandItem_eq_arr {items : List Item} {v : Json} {xs : List Json}
    (h : expandItem items v = .arr xs) : v = .arr xs := by
  unfold expandItem at h
  split at h
  · cases h
  · exact h

theorem expandLevel_isNull (s : Schema) (inner : Expander) (d : TypeDefinition) (v : Json) :
    (expandLevel s inner d v).isNull = v.isNull := by
  unfold expandLevel
  dsimp only
  split
  · split
    · rfl
    · exact expandItem_isNull _ _
  all_goals (repeat' split) <;> rfl

theorem expandLevel_eq_arr {s : Schema} {inner : Expander} {d : TypeDefinition} {v : Json}
    {xs : List Json} (h : expandLevel s inner d v = .arr xs) : ∃ ys, v = .arr ys := by
  unfold expandLevel at h
  dsimp only at h
  split at h
  · split at h
    · exact ⟨xs, h⟩
    · exact ⟨xs, expandItem_eq_arr h⟩
  -- What is left either began as an array or ends as an object.
  all_goals first
    | exact ⟨_, rfl⟩
    | exact ⟨_, h⟩
    | (split at h <;> cases h)

/-- So many levels of an instance are settled, however many. -/
theorem settled_expandLevels {s : Schema} (built : s.Built) (levels : Nat) :
    Settled s (expandLevels s levels) := by
  induction levels with
  | zero =>
    refine ⟨fun _ _ _ => rfl, fun _ _ => rfl, ?_⟩
    intro d v xs h
    exact ⟨xs, h⟩
  | succ levels ih =>
    refine ⟨?_, fun d v => expandLevel_isNull s _ d v, fun d v xs h => expandLevel_eq_arr h⟩
    intro d denoted v
    exact expandLevel_idempotent ih (built.wellFormed_of_denotes denoted) v

theorem expandLevels_congr {s r : Schema} (lookup : s.lookup? = r.lookup?)
    (fieldType : s.fieldType? = r.fieldType?) (levels : Nat) :
    expandLevels s levels = expandLevels r levels := by
  induction levels with
  | zero => rfl
  | succ levels ih =>
    funext d v
    simp only [expandLevels, ih, expandLevel, elementType?, lookup,
      show expandField s = expandField r by
        funext inner owner f v
        simp only [expandField, fieldType]]

end Jadn.Expansion

namespace Jadn.Schema

/-- A verbose form is its own verbose form, and validation does not tell an instance from its
verbose form. -/
theorem Built.expand_expand {s : Schema} (built : s.Built) {typeName : String}
    {d : TypeDefinition} (found : s.lookup? typeName = some d) (v : Json) :
    ∃ w, s.expand typeName v = .ok w ∧ s.expand typeName w = .ok w ∧
      s.validate typeName w = s.validate typeName v := by
  have settled : d.expand s (d.expand s v) = d.expand s v :=
    (Expansion.settled_expandLevels built _).idempotent d (Or.inl ⟨typeName, found⟩) v
  refine ⟨d.expand s v, ?_, ?_, ?_⟩
  · simp only [Schema.expand, found]
  · simp only [Schema.expand, found, settled]
  · simp only [Schema.validate, found, settled]

def points : Schema where
  info := {}
  types := [
    { name := "Point"
      options := {}
      description := ""
      kind := .record [
        .new 1 "x" "Integer",
        { id := 2, name := "label", typeRef := "String",
          options := { minc := some 0 }, description := "" }] }]
  limits := {}
  extensions := []
  fieldTypes := []
  patterns := []

theorem points_built : points.Built := ⟨by decide, .entered, rfl⟩

/-- A record given by its values, of which the verbose form leaves out the null. -/
theorem expand_values_of_point :
    points.Built ∧ (points.lookup? "Point").isSome ∧
      ∃ w, points.expand "Point" (.arr [.int 1, .null]) = .ok w ∧ w = .obj [("x", .int 1)] ∧
        points.expand "Point" w = .ok w ∧
        points.validate "Point" w = points.validate "Point" (.arr [.int 1, .null]) := by
  have found : points.lookup? "Point" = some points.types.head! := rfl
  obtain ⟨w, first, second, same⟩ := points_built.expand_expand found (.arr [.int 1, .null])
  have verbose : points.expand "Point" (.arr [.int 1, .null]) = .ok (.obj [("x", .int 1)]) := rfl
  exact ⟨points_built, rfl, w, first, Except.ok.inj (first.symm.trans verbose), second, same⟩

end Jadn.Schema
