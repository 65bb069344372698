import Jadn.Proofs.Schema.Descriptions
import Jadn.Validation

/-!
Descriptions decide nothing when an instance is expanded or checked.

Without descriptions, a definition is expanded and checked as before one level down, if further
levels are; so it is at every level, and even its errors are the same. A schema with shorter
descriptions therefore has the outcomes of the old one.
-/

set_option autoImplicit false

namespace Jadn

namespace Schema

variable (s : Schema)

theorem lookup?_undescribed (reference : String) :
    s.undescribed.lookup? reference = (s.lookup? reference).map TypeDefinition.undescribed := by
  simp only [lookup?, resolve?, undescribed, lookup_undescribedTable, declared?_undescribed,
    Option.orElse_eq_orElse, Option.orElse_eq_or, Option.map_or, builtin?_undescribed]

theorem fieldType?_undescribed (owner : String) (f : Field) :
    s.undescribed.fieldType? owner f.undescribed =
      (s.fieldType? owner f).map TypeDefinition.undescribed := by
  simp only [fieldType?, Option.orElse_eq_orElse, Option.orElse_eq_or, Option.map_or,
    ← lookup_undescribedTable, ← lookup?_undescribed]
  rfl

end Schema

namespace TypeDefinition

variable (d : TypeDefinition)

theorem fieldNamed?_undescribed (name : String) :
    d.undescribed.fieldNamed? name = (d.fieldNamed? name).map Field.undescribed := by
  unfold fieldNamed?
  rw [fields_undescribed, List.find?_map]
  rfl

theorem fieldWithId?_undescribed (id : Int64) :
    d.undescribed.fieldWithId? id = (d.fieldWithId? id).map Field.undescribed := by
  unfold fieldWithId?
  rw [fields_undescribed, List.find?_map]
  rfl

theorem fieldOfKey?_undescribed (key : String) :
    d.undescribed.fieldOfKey? key = (d.fieldOfKey? key).map Field.undescribed := by
  have byId : (Numeral.int64? key).bind d.undescribed.fieldWithId? =
      ((Numeral.int64? key).bind d.fieldWithId?).map Field.undescribed := by
    cases Numeral.int64? key with
    | none => rfl
    | some id => exact d.fieldWithId?_undescribed id
  cases mode : d.options.byId with
  | true => rw [fieldOfKey?_of_byId mode, fieldOfKey?_of_byId (d := d.undescribed) mode, byId]
  | false =>
    rw [fieldOfKey?_of_byName mode, fieldOfKey?_of_byName (d := d.undescribed) mode, byId,
      fieldNamed?_undescribed, Option.map_or]

end TypeDefinition

namespace Expansion

section Members

variable {d : TypeDefinition} {expand expand' : Field → Json → Json}

theorem repeatsField_undescribed (members : Dict Json) :
    repeatsField d.undescribed members = repeatsField d members := by
  simp only [repeatsField, TypeDefinition.fieldOfKey?_undescribed, Option.map_map]
  rfl

theorem expandItem_undescribed (items : List Item) (value : Json) :
    expandItem (items.map Item.undescribed) value = expandItem items value := by
  unfold expandItem
  cases value.int64? with
  | none => rfl
  | some id =>
    rw [Option.bind_some, Option.bind_some, List.find?_map]
    cases found : items.find? (·.id == id) <;>
      simp [Function.comp_def, Item.undescribed, found]

variable (same : ∀ f value, expand' f.undescribed value = expand f value)
include same

theorem expandMember_undescribed (member : String × Json) :
    expandMember d.undescribed expand' member = expandMember d expand member := by
  obtain ⟨key, value⟩ := member
  simp only [expandMember, TypeDefinition.fieldOfKey?_undescribed]
  cases d.fieldOfKey? key with
  | none => rfl
  | some f =>
    simp only [Option.map_some, same]
    rfl

theorem expandValues_undescribed (fields : List Field) (values : List Json) :
    expandValues expand' (fields.map Field.undescribed) values =
      expandValues expand fields values := by
  unfold expandValues
  rw [List.zip_map_left, List.filterMap_map]
  refine List.filterMap_congr fun member _ => ?_
  obtain ⟨f, value⟩ := member
  simp only [Function.comp_apply, Prod.map_apply, id_eq, same]
  rfl

theorem expandPlaces_undescribed (fields : List Field) (values : List Json) :
    expandPlaces expand' (fields.map Field.undescribed) values =
      expandPlaces expand fields values := by
  induction fields generalizing values with
  | nil => cases values <;> rfl
  | cons f fields ih =>
    cases values with
    | nil => rfl
    | cons value values => rw [List.map_cons, expandPlaces, expandPlaces, ih, same]

end Members

section Levels

variable (s : Schema) (inner : Expander) (d : TypeDefinition)

theorem expandField_undescribed (f : Field) (value : Json) :
    expandField s.undescribed inner d.undescribed f.undescribed value =
      expandField s (fun e => inner e.undescribed) d f value := by
  unfold expandField
  rw [TypeDefinition.name_undescribed, Schema.fieldType?_undescribed]
  cases s.fieldType? d.name f <;> rfl

theorem elementType?_undescribed :
    elementType? s.undescribed d.undescribed =
      (elementType? s d).map TypeDefinition.undescribed := by
  unfold elementType?
  rw [TypeDefinition.options_undescribed]
  cases d.options.vtype with
  | none => rfl
  | some reference => exact s.lookup?_undescribed reference

theorem expandLevel_undescribed (value : Json) :
    expandLevel s.undescribed inner d.undescribed value =
      expandLevel s (fun e => inner e.undescribed) d value := by
  have field := expandField_undescribed s inner d
  unfold expandLevel
  simp only [repeatsField_undescribed, funext (expandMember_undescribed (d := d) field),
    elementType?_undescribed, TypeDefinition.options_undescribed]
  rw [TypeDefinition.kind_undescribed]
  cases d.kind with
  | enumerated items =>
    cases value <;> simp only [Kind.undescribed, expandItem_undescribed]
  | record fields =>
    cases value <;> simp only [Kind.undescribed, expandValues_undescribed field, List.length_map]
  | array fields => cases value <;> simp only [Kind.undescribed, expandPlaces_undescribed field]
  | arrayOf | mapOf => cases elementType? s d <;> cases value <;> rfl
  | _ => cases value <;> rfl

theorem expandLevels_undescribed (levels : Nat) (value : Json) :
    expandLevels s.undescribed levels d.undescribed value = expandLevels s levels d value := by
  induction levels generalizing d value with
  | zero => rfl
  | succ levels ih =>
    rw [expandLevels, expandLevels, expandLevel_undescribed]
    exact congrArg (expandLevel s · d value) (funext fun e => funext fun value => ih e value)

end Levels

end Expansion

namespace Validation

variable (s : Schema) (inner : Checker) (d : TypeDefinition)

theorem checkField_undescribed (f : Field) (value : Json) :
    checkField s.undescribed inner d.undescribed f.undescribed value =
      checkField s (fun e => inner e.undescribed) d f value := by
  unfold checkField
  rw [TypeDefinition.name_undescribed, Schema.fieldType?_undescribed]
  cases s.fieldType? d.name f <;> rfl

theorem checkEnumerated_undescribed (value : Json) :
    checkEnumerated d.undescribed value = checkEnumerated d value := by
  simp only [checkEnumerated, TypeDefinition.items_undescribed, List.any_map]
  rfl

theorem checkChoice_undescribed (value : Json) :
    checkChoice s.undescribed inner d.undescribed value =
      checkChoice s (fun e => inner e.undescribed) d value := by
  unfold checkChoice
  cases value with
  | str name =>
    simp only [TypeDefinition.fieldNamed?_undescribed, Option.isSome_map]
    rfl
  | obj members =>
    rcases members with _ | ⟨⟨key, member⟩, _ | ⟨second, others⟩⟩
    · rfl
    · simp only [TypeDefinition.fieldOfKey?_undescribed]
      cases d.fieldOfKey? key with
      | none => rfl
      | some f => simp only [Option.map_some, checkField_undescribed]
    · rfl
  | _ => rfl

theorem lastRequired_undescribed (fields : List Field) :
    lastRequired (fields.map Field.undescribed) = lastRequired fields := by
  unfold lastRequired
  rw [← List.map_reverse, List.dropWhile_map, List.length_map]
  rfl

theorem checkArray_undescribed (fields : List Field) (value : Json) :
    checkArray s.undescribed inner d.undescribed (fields.map Field.undescribed) value =
      checkArray s (fun e => inner e.undescribed) d fields value := by
  simp only [checkArray, checkPlaces, lastRequired_undescribed, List.length_map, List.zipIdx_map,
    List.zip_map_left, List.forM_eq_forM, List.forM_map, Prod.map_fst, Prod.map_snd, id_eq,
    checkField_undescribed]
  rfl

theorem partType_undescribed (role : String) (reference : Option String) :
    partType s.undescribed d.undescribed role reference =
      (partType s d role reference).map TypeDefinition.undescribed := by
  cases reference with
  | none => rfl
  | some reference =>
    simp only [partType, Schema.lookup?_undescribed]
    cases s.lookup? reference <;> rfl

theorem checkArrayOf_undescribed (value : Json) :
    checkArrayOf s.undescribed inner d.undescribed value =
      checkArrayOf s (fun e => inner e.undescribed) d value := by
  unfold checkArrayOf
  rw [partType_undescribed, TypeDefinition.options_undescribed]
  cases partType s d "vtype" d.options.vtype <;> rfl

theorem members_undescribed (value : Json) : members d.undescribed value = members d value := by
  unfold members
  rw [TypeDefinition.kind_undescribed]
  cases d.kind with
  | record fields =>
    cases value <;> simp only [Kind.undescribed, List.length_map, List.zip_map_left,
      List.filterMap_map] <;> rfl
  | _ => cases value <;> rfl

theorem checkMapOf_undescribed (value : Json) :
    checkMapOf s.undescribed inner d.undescribed value =
      checkMapOf s (fun e => inner e.undescribed) d value := by
  have key : ∀ e : TypeDefinition, valueOfKey e.undescribed = valueOfKey e := by
    intro e
    funext key
    rw [valueOfKey, valueOfKey, e.baseType_undescribed]
  have read : ∀ e : TypeDefinition, entries d.undescribed e.undescribed value =
      entries d e value := by
    intro e
    simp only [entries, key]
    rfl
  unfold checkMapOf
  simp only [partType_undescribed, TypeDefinition.options_undescribed]
  cases partType s d "ktype" d.options.ktype with
  | error e => rfl
  | ok k =>
    cases partType s d "vtype" d.options.vtype with
    | error e => rfl
    | ok t =>
      simp only [Except.map, bind, Except.bind, read]
      rfl

theorem checkKeys_undescribed (given : List Int64) (keys : List String) :
    checkKeys d.undescribed given keys = checkKeys d given keys := by
  induction keys generalizing given with
  | nil => rfl
  | cons key keys ih =>
    rw [checkKeys, checkKeys, TypeDefinition.fieldOfKey?_undescribed]
    cases d.fieldOfKey? key with
    | none =>
      simp only [Option.map_none, ih]
      rfl
    | some f =>
      simp only [Option.map_some, ih]
      rfl

theorem checkMap_undescribed (value : Json) :
    checkMap s.undescribed inner d.undescribed value =
      checkMap s (fun e => inner e.undescribed) d value := by
  simp only [checkMap, members_undescribed, checkKeys_undescribed,
    TypeDefinition.fields_undescribed, List.forM_eq_forM, List.forM_map, checkField_undescribed]
  rfl

theorem checkLevel_undescribed (value : Json) :
    checkLevel s.undescribed inner d.undescribed value =
      checkLevel s (fun e => inner e.undescribed) d value := by
  unfold checkLevel
  rw [TypeDefinition.kind_undescribed]
  cases d.kind with
  | enumerated items => exact checkEnumerated_undescribed d value
  | choice fields => exact checkChoice_undescribed s inner d value
  | array fields => exact checkArray_undescribed s inner d fields value
  | arrayOf => exact checkArrayOf_undescribed s inner d value
  | map fields => exact checkMap_undescribed s inner d value
  | mapOf => exact checkMapOf_undescribed s inner d value
  | record fields => exact checkMap_undescribed s inner d value
  | _ => rfl

/-- Descriptions do not matter for what is accepted, nor for errors, at any level. -/
theorem checkLevels_undescribed (levels : Nat) (value : Json) :
    checkLevels s.undescribed levels d.undescribed value = checkLevels s levels d value := by
  induction levels generalizing d value with
  | zero => rfl
  | succ levels ih =>
    rw [checkLevels, checkLevels, checkLevel_undescribed]
    exact congrArg (checkLevel s · d value) (funext fun e => funext fun value => ih e value)

end Validation

namespace Schema

theorem expand_undescribed (s : Schema) (name : String) (value : Json) :
    s.undescribed.expand name value = s.expand name value := by
  unfold expand
  rw [lookup?_undescribed]
  cases s.lookup? name with
  | none => rfl
  | some d => exact congrArg Except.ok (Expansion.expandLevels_undescribed s d _ value)

theorem validate_undescribed (s : Schema) (name : String) (value : Json) :
    s.undescribed.validate name value = s.validate name value := by
  unfold validate
  rw [lookup?_undescribed]
  cases s.lookup? name with
  | none => rfl
  | some d =>
    have form : d.undescribed.expand s.undescribed value = d.expand s value :=
      Expansion.expandLevels_undescribed s d _ value
    have checked := Validation.checkLevels_undescribed s d (s.limits.maxDepth + 1 - 0)
      (d.expand s value)
    exact congrArg (Validation.under name) (form ▸ checked)

/-- Descriptions can be shortened in any schema. What it declares stays the same up to
descriptions, every name has the outcomes and verbose forms that it had, errors included, and of
several widths the smallest counts. -/
theorem Built.truncateDescriptions_frame {s : Schema} (built : s.Built) (width : Nat) :
    ∃ t, (∀ order, s.truncateDescriptions width order = .ok t) ∧
      t.info = s.info ∧ t.limits = s.limits ∧ t.typeNames = s.typeNames ∧
      t.types.map TypeDefinition.undescribed = s.types.map TypeDefinition.undescribed ∧
      t.types.map TypeDefinition.references = s.types.map TypeDefinition.references ∧
      (∀ name value, t.validate name value = s.validate name value ∧
        t.expand name value = s.expand name value) ∧
      ∀ width' order, t.truncateDescriptions width' order =
        s.truncateDescriptions (min width width') order := by
  obtain ⟨t, made, same⟩ := built.exists_truncateDescriptions width
  have tables := tables_of_build (made .entered)
  have types : t.types.map TypeDefinition.undescribed = s.types.map TypeDefinition.undescribed :=
    congrArg Schema.types same
  -- What undescribed definitions tell is told by their lists.
  have told : ∀ {α : Type} (tell : TypeDefinition → α), (∀ d, tell d.undescribed = tell d) →
      t.types.map tell = s.types.map tell := by
    intro α tell kept
    have equal := congrArg (List.map tell) types
    simpa only [List.map_map, Function.comp_def, kept] using equal
  refine ⟨t, made, tables.info_eq, tables.limits_eq,
    told _ TypeDefinition.name_undescribed, types,
    told _ TypeDefinition.references_undescribed, fun name value => ⟨?_, ?_⟩,
    truncateDescriptions_truncateDescriptions (made .entered)⟩
  · rw [← validate_undescribed, same, validate_undescribed]
  · rw [← expand_undescribed, same, expand_undescribed]

def palettes : Schema where
  info := {}
  types := [
    { name := "Palette"
      options := {}
      description := "Colours of a page"
      kind := .record [
        { id := 1, name := "ink", typeRef := "String", options := {},
          description := "what is written" },
        { id := 2, name := "paper", typeRef := "String", options := {},
          description := "the rest" }] },
    { name := "Legend"
      options := { ktype := some "#Palette", vtype := some "String" }
      description := ""
      kind := .mapOf }]
  limits := {}
  extensions := [("#Palette",
    { name := "Enum-Palette"
      options := {}
      description := "Derived Enumerated from Palette"
      kind := .enumerated [⟨1, "ink", "what is written"⟩, ⟨2, "paper", "the rest"⟩] })]
  fieldTypes := []
  patterns := []

theorem palettes_built : palettes.Built := ⟨by decide, .entered, rfl⟩

/-- The derived enumeration takes over the descriptions, and none of them counts. -/
theorem truncateDescriptions_palettes :
    palettes.Built ∧ ∃ t, (∀ order, palettes.truncateDescriptions 6 order = .ok t) ∧
      t.types.map TypeDefinition.description = ["Colo..", ""] ∧
      t.validate "Legend" (.obj [("ink", .str "text")]) = .ok () ∧
      ∀ order, t.truncateDescriptions 9 order = palettes.truncateDescriptions 6 order := by
  obtain ⟨t, made, -, -, -, -, -, same, twice⟩ := palettes_built.truncateDescriptions_frame 6
  have types : t.types = palettes.types.map (TypeDefinition.mapDescriptions (truncate 6)) :=
    (tables_of_build (made .entered)).types_eq
  refine ⟨palettes_built, t, made, ?_, ?_, twice 9⟩
  · rw [types]
    decide
  · rw [(same "Legend" _).1]
    rfl

end Schema

end Jadn
