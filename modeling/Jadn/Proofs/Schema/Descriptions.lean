import Jadn.Proofs.Built
import Jadn.Schema.Descriptions

/-!
Descriptions decide nothing when a schema is built.

`undescribed` forgets them. The tables that `Schema.build` computes are equal up to
descriptions if the definitions are, although derived enumerations carry descriptions along, and
it fails for both or for none. So the schema with shorter descriptions exists, and it is the old
one up to descriptions.
-/

set_option autoImplicit false

namespace Jadn

section Widths

theorem toList_truncate_of_lt {width : Nat} {text : String} (positive : width ≠ 0)
    (long : width < text.length) :
    (truncate width text).toList = text.toList.take (width - 2) ++ ['.', '.'] := by
  rw [truncate, if_neg positive, if_neg (by omega), String.toList_append, String.toList_ofList]
  rfl

theorem truncate_of_le {width : Nat} {text : String} (positive : width ≠ 0)
    (short : text.length ≤ width) : truncate width text = text := by
  rw [truncate, if_neg positive, if_pos short]

/-- Widths of one and two leave the two points alone, greater ones are the length of what they
cut. -/
theorem length_truncate_of_lt {width : Nat} {text : String} (positive : width ≠ 0)
    (long : width < text.length) : (truncate width text).length = max width 2 := by
  rw [← String.length_toList, toList_truncate_of_lt positive long]
  simp only [List.length_append, List.length_take, List.length_cons, List.length_nil,
    String.length_toList]
  omega

theorem truncate_zero (text : String) : truncate 0 text = "" := rfl

/-- To truncate twice is to truncate to the smaller width. -/
theorem truncate_truncate (width width' : Nat) (text : String) :
    truncate width' (truncate width text) = truncate (min width width') text := by
  by_cases none : width = 0
  · subst none
    rw [Nat.zero_min, truncate_zero]
    by_cases none' : width' = 0
    · rw [none', truncate_zero]
    · exact truncate_of_le none' (Nat.zero_le _)
  by_cases none' : width' = 0
  · rw [none', truncate_zero, Nat.min_zero, truncate_zero]
  by_cases short : text.length ≤ width
  · rw [truncate_of_le none short]
    by_cases wider : width ≤ width'
    · rw [Nat.min_eq_left wider, truncate_of_le none short, truncate_of_le none' (by omega)]
    · rw [Nat.min_eq_right (by omega)]
  have long : width < text.length := by omega
  have length := length_truncate_of_lt none long
  by_cases kept : max width 2 ≤ width'
  · rw [Nat.min_eq_left (by omega)]
    exact truncate_of_le none' (by omega)
  · -- The points of the first cut are cut off again.
    rw [Nat.min_eq_right (by omega)]
    apply String.toList_inj.mp
    have inside : width' - 2 ≤ (text.toList.take (width - 2)).length := by
      rw [List.length_take, String.length_toList]
      omega
    rw [toList_truncate_of_lt none' (by omega), toList_truncate_of_lt none' (by omega),
      toList_truncate_of_lt none long, List.take_append_of_le_length inside, List.take_take,
      Nat.min_eq_left (by omega)]

end Widths

def Field.undescribed (f : Field) : Field := { f with description := "" }

def Item.undescribed (i : Item) : Item := { i with description := "" }

def Kind.undescribed : Kind → Kind
  | enumerated items => enumerated (items.map Item.undescribed)
  | choice fields => choice (fields.map Field.undescribed)
  | array fields => array (fields.map Field.undescribed)
  | map fields => map (fields.map Field.undescribed)
  | record fields => record (fields.map Field.undescribed)
  | kind => kind

namespace TypeDefinition

section Mapped

variable {f : String → String} {d : TypeDefinition}

theorem fields_mapDescriptions :
    (d.mapDescriptions f).fields =
      d.fields.map fun field => { field with description := f field.description } := by
  unfold mapDescriptions fields
  cases d.kind <;> rfl

theorem memberKeys_mapDescriptions : (d.mapDescriptions f).memberKeys = d.memberKeys := by
  unfold mapDescriptions memberKeys
  cases d.kind <;> simp [Kind.fields, Function.comp_def]

theorem mapDescriptions_mapDescriptions (f g : String → String) (d : TypeDefinition) :
    (d.mapDescriptions f).mapDescriptions g = d.mapDescriptions (g ∘ f) := by
  unfold mapDescriptions
  cases d.kind <;> simp [Function.comp_def]

end Mapped

def undescribed (d : TypeDefinition) : TypeDefinition :=
  { d with description := "", kind := d.kind.undescribed }

@[simp] theorem name_undescribed (d : TypeDefinition) : d.undescribed.name = d.name := rfl

@[simp] theorem options_undescribed (d : TypeDefinition) : d.undescribed.options = d.options := rfl

theorem kind_undescribed (d : TypeDefinition) : d.undescribed.kind = d.kind.undescribed := rfl

@[simp] theorem fields_undescribed (d : TypeDefinition) :
    d.undescribed.fields = d.fields.map Field.undescribed := by
  unfold fields
  rw [kind_undescribed]
  cases d.kind <;> rfl

@[simp] theorem items_undescribed (d : TypeDefinition) :
    d.undescribed.items = d.items.map Item.undescribed := by
  unfold items
  rw [kind_undescribed]
  cases d.kind <;> rfl

@[simp] theorem baseType_undescribed (d : TypeDefinition) :
    d.undescribed.baseType = d.baseType := by
  unfold baseType
  rw [kind_undescribed]
  cases d.kind <;> rfl

@[simp] theorem undescribed_mapDescriptions (f : String → String) (d : TypeDefinition) :
    (d.mapDescriptions f).undescribed = d.undescribed := by
  unfold mapDescriptions undescribed
  cases d.kind <;>
    simp [Kind.undescribed, Field.undescribed, Item.undescribed, Function.comp_def]

@[simp] theorem undescribed_undescribed (d : TypeDefinition) :
    d.undescribed.undescribed = d.undescribed := by
  unfold undescribed
  cases d.kind <;>
    simp [Kind.undescribed, Field.undescribed, Item.undescribed, Function.comp_def]

theorem references_undescribed (d : TypeDefinition) : d.undescribed.references = d.references := by
  unfold references
  rw [fields_undescribed, List.flatMap_map]
  rfl

theorem markedReferences_undescribed (d : TypeDefinition) :
    d.undescribed.markedReferences = d.markedReferences := by
  simp only [markedReferences, fields_undescribed, List.flatMap_map]
  rfl

theorem undescribed_refined (d : TypeDefinition) (name : String) (overlay : Options) :
    (d.refined name overlay).undescribed = d.undescribed.refined name overlay := rfl

theorem create_undescribed {name : String} {items items' : List Item} {options : Options}
    {text text' : String} (same : items.map Item.undescribed = items'.map Item.undescribed) :
    (create name (.enumerated items) options text).map undescribed =
      (create name (.enumerated items') options text').map undescribed := by
  have keys : ∀ is : List Item, (is.map fun i => (i.id, i.value)) =
      (is.map Item.undescribed).map fun i => (i.id, i.value) := by
    intro is
    rw [List.map_map]
    rfl
  have erased : ∀ (is : List Item) (text : String),
      (⟨name, options, text, .enumerated is⟩ : TypeDefinition).undescribed =
        ⟨name, options, "", .enumerated (is.map Item.undescribed)⟩ := fun _ _ => rfl
  simp only [create, memberKeys]
  rw [keys items, keys items', same]
  split
  · rfl
  · simp only [Except.map, erased, same]

theorem toEnumeration_undescribed (d : TypeDefinition) :
    d.undescribed.toEnumeration.map undescribed = d.toEnumeration.map undescribed := by
  have created : ∀ (fields : List Field) (text : String),
      ((create (enumerationName d.name) (.enumerated ((fields.map Field.undescribed).map
        fun f => ⟨f.id, f.name, f.description⟩)) { byId := d.options.byId } text).mapError
          Error.parse).map undescribed =
      ((create (enumerationName d.name) (.enumerated (fields.map
        fun f => ⟨f.id, f.name, f.description⟩)) { byId := d.options.byId } text).mapError
          Error.parse).map undescribed := by
    intro fields text
    refine Except.map_mapError_congr (create_undescribed ?_)
    simp [Field.undescribed, Item.undescribed]
  unfold toEnumeration
  rw [kind_undescribed]
  cases d.kind with
  | choice fields | array fields | map fields | record fields => exact created fields _
  | enumerated items => exact congrArg Except.ok d.undescribed_undescribed
  | _ => rfl

end TypeDefinition

def undescribedTable {κ : Type} (table : List (κ × TypeDefinition)) : List (κ × TypeDefinition) :=
  table.map fun entry => (entry.1, entry.2.undescribed)

theorem lookup_undescribedTable {κ : Type} [BEq κ] (table : List (κ × TypeDefinition)) (key : κ) :
    (undescribedTable table).lookup key = (table.lookup key).map TypeDefinition.undescribed := by
  induction table with
  | nil => rfl
  | cons entry table ih =>
    obtain ⟨k, d⟩ := entry
    rw [undescribedTable, List.map_cons, List.lookup_cons, List.lookup_cons]
    cases key == k with
    | true => rfl
    | false => exact ih

theorem undescribedTable_insert (table : Dict TypeDefinition) (key : String) (d : TypeDefinition) :
    undescribedTable (table.insert key d) =
      Dict.insert key d.undescribed (undescribedTable table) := by
  induction table with
  | nil => rfl
  | cons entry table ih =>
    obtain ⟨k, e⟩ := entry
    by_cases same : k = key
    · simp [Dict.insert, undescribedTable, same]
    · simpa [Dict.insert, undescribedTable, same] using ih

section Derived

variable (types : List TypeDefinition)

theorem declared?_undescribed (name : String) :
    declared? (types.map TypeDefinition.undescribed) name =
      (declared? types name).map TypeDefinition.undescribed := by
  unfold declared?
  rw [List.find?_map]
  rfl

namespace Extensions

theorem nested?_undescribed (f : Field) :
    nested? (types.map TypeDefinition.undescribed) f.undescribed =
      (nested? types f).map TypeDefinition.undescribed := by
  unfold nested?
  rw [show f.undescribed.typeRef = f.typeRef from rfl, declared?_undescribed]
  cases declared? types f.typeRef with
  | none => rfl
  | some d =>
    have same : (f.undescribed.options.dir && d.undescribed.hasFields && !d.undescribed.isEnumeration)
        = (f.options.dir && d.hasFields && !d.isEnumeration) := by
      simp only [TypeDefinition.hasFields, TypeDefinition.isEnumeration,
        TypeDefinition.baseType_undescribed]
      rfl
    rw [Option.map_some, Option.filter_some, Option.filter_some, same]
    split <;> rfl

theorem paths_undescribed (fuel : Nat) (entered : List String) (d : TypeDefinition) :
    paths (types.map TypeDefinition.undescribed) fuel entered d.undescribed =
      (paths types fuel entered d).map fun path => (path.1, "") := by
  induction fuel generalizing entered d with
  | zero => rfl
  | succ fuel ih =>
    rw [paths, paths, TypeDefinition.name_undescribed]
    by_cases before : d.name ∈ entered
    · rw [if_pos before, if_pos before]
      rfl
    · rw [if_neg before, if_neg before, TypeDefinition.fields_undescribed, List.flatMap_map,
        List.map_flatMap]
      refine List.flatMap_congr fun f _ => ?_
      rw [nested?_undescribed]
      cases nested? types f with
      | none => rfl
      | some inner =>
        simp only [Option.map_some, ih, List.map_map]
        rfl

theorem pathItems_undescribed (d : TypeDefinition) :
    pathItems (types.map TypeDefinition.undescribed) d.undescribed =
      (pathItems types d).map Item.undescribed := by
  unfold pathItems
  rw [List.length_map, paths_undescribed, List.zipIdx_map, List.map_map, List.map_map]
  rfl

theorem items?_undescribed (d : TypeDefinition) :
    (items? (types.map TypeDefinition.undescribed) d.undescribed).map
        (Option.map (List.map Item.undescribed)) =
      (items? types d).map (Option.map (List.map Item.undescribed)) := by
  have listed : ∀ {x y : Except Error TypeDefinition},
      x.map TypeDefinition.undescribed = y.map TypeDefinition.undescribed →
        (x.map fun e => some e.items).map (Option.map (List.map Item.undescribed)) =
          (y.map fun e => some e.items).map (Option.map (List.map Item.undescribed)) := by
    intro x y same
    cases x <;> cases y <;> simp only [Except.map, Except.error.injEq, Except.ok.injEq,
      reduceCtorEq] at same ⊢
    · exact same
    · simpa using congrArg TypeDefinition.items same
  unfold items?
  rw [TypeDefinition.options_undescribed, TypeDefinition.kind_undescribed]
  cases d.kind with
  | enumerated items =>
    rw [Kind.undescribed]
    cases d.options.enumeration with
    | some source =>
      simp only [declared?_undescribed]
      cases declared? types (splitMarker source).2 with
      | none => rfl
      | some t => exact listed t.toEnumeration_undescribed
    | none =>
      cases d.options.pointer with
      | some source =>
        simp only [declared?_undescribed]
        cases declared? types source with
        | none => rfl
        | some t => simp [Except.map, pathItems_undescribed, Item.undescribed]
      | none => rfl
  | _ => rfl

theorem addOwn_undescribed (d : TypeDefinition) {table table' : Dict TypeDefinition}
    (same : undescribedTable table = undescribedTable table') :
    (addOwn types table d).map undescribedTable =
      (addOwn (types.map TypeDefinition.undescribed) table' d.undescribed).map
        undescribedTable := by
  refine Except.map_bind_congr (items?_undescribed types d).symm fun taken taken' items => ?_
  cases taken <;> cases taken' <;> simp only [Option.map_none, Option.map_some, reduceCtorEq,
    Option.some.injEq] at items
  · exact congrArg Except.ok same
  · refine Except.map_bind_congr (Except.map_mapError_congr
      (TypeDefinition.create_undescribed items)) fun e e' equal => congrArg Except.ok ?_
    rw [undescribedTable_insert, undescribedTable_insert, same, equal]
    rfl

theorem addReference_undescribed (reference : String) {table table' : Dict TypeDefinition}
    (same : undescribedTable table = undescribedTable table') :
    (addReference types table reference).map undescribedTable =
      (addReference (types.map TypeDefinition.undescribed) table' reference).map
        undescribedTable := by
  have known : table.contains reference = table'.contains reference := by
    have found := congrArg (fun t => (t.lookup reference).isSome) same
    simpa [lookup_undescribedTable, Dict.contains] using found
  unfold addReference
  rw [known, declared?_undescribed]
  by_cases listed : table'.contains reference = true
  · rw [if_pos listed, if_pos listed]
    exact congrArg Except.ok same
  · rw [if_neg listed, if_neg listed]
    cases declared? types (splitMarker reference).2 with
    | none => exact congrArg Except.ok same
    | some d =>
      refine Except.map_bind_congr d.toEnumeration_undescribed.symm fun e e' equal =>
        congrArg Except.ok ?_
      rw [undescribedTable_insert, undescribedTable_insert, same, equal]

theorem ofTypes_undescribed :
    (ofTypes types).map undescribedTable =
      (ofTypes (types.map TypeDefinition.undescribed)).map undescribedTable := by
  unfold ofTypes
  rw [List.foldlM_map]
  refine Except.map_foldlM_congr (fun table table' d same => ?_) types rfl
  refine Except.map_bind_congr (addOwn_undescribed types d same) fun own own' same => ?_
  rw [TypeDefinition.markedReferences_undescribed]
  exact Except.map_foldlM_congr (fun _ _ r => addReference_undescribed types r) _ same

end Extensions

theorem builtin?_undescribed (name : String) :
    (builtin? name).map TypeDefinition.undescribed = builtin? name := by
  unfold builtin?
  rw [Option.map_map]
  congr 1
  funext base
  cases base <;> rfl

theorem resolve?_undescribed {table table' : Dict TypeDefinition}
    (same : undescribedTable table = undescribedTable table') (reference : String) :
    (resolve? types table reference).map TypeDefinition.undescribed =
      (resolve? (types.map TypeDefinition.undescribed) table' reference).map
        TypeDefinition.undescribed := by
  have derived := congrArg (fun t => t.lookup reference) same
  simp only [lookup_undescribedTable] at derived
  simp only [resolve?, Option.orElse_eq_orElse, Option.orElse_eq_or, Option.map_or,
    declared?_undescribed, derived, Option.map_map, Function.comp_def,
    TypeDefinition.undescribed_undescribed]

namespace Schema

theorem refinedFieldTypes_undescribed {table table' : Dict TypeDefinition}
    (same : undescribedTable table = undescribedTable table') :
    undescribedTable (refinedFieldTypes types table) =
      undescribedTable (refinedFieldTypes (types.map TypeDefinition.undescribed) table') := by
  unfold refinedFieldTypes undescribedTable
  rw [List.map_flatMap, List.flatMap_map, List.map_flatMap]
  refine List.flatMap_congr fun d _ => ?_
  rw [TypeDefinition.fields_undescribed, List.filterMap_map, List.map_filterMap,
    List.map_filterMap]
  refine List.filterMap_congr fun f _ => ?_
  have denoted := resolve?_undescribed types same f.typeRef
  simp only [Function.comp_apply]
  rw [show f.undescribed.options = f.options from rfl,
    show f.undescribed.typeRef = f.typeRef from rfl]
  by_cases refines : f.options.hasTypeOptions = true
  · rw [if_pos refines, if_pos refines]
    generalize resolve? types table f.typeRef = a at denoted ⊢
    generalize resolve? (types.map TypeDefinition.undescribed) table' f.typeRef = b at denoted ⊢
    cases a <;> cases b <;> simp only [Option.map_none, Option.map_some, reduceCtorEq,
      Option.some.injEq] at denoted
    · rfl
    · next t u =>
      have name : t.undescribed.name = u.undescribed.name := congrArg TypeDefinition.name denoted
      simp only [TypeDefinition.name_undescribed] at name
      simp [TypeDefinition.undescribed_refined, denoted, name, Field.undescribed]
  · rw [if_neg refines, if_neg refines]

theorem compiledPatterns_undescribed :
    compiledPatterns (types.map TypeDefinition.undescribed) = compiledPatterns types := by
  unfold compiledPatterns
  rw [List.foldlM_map]
  rfl

theorem checkNamesDistinct_undescribed :
    checkNamesDistinct (types.map TypeDefinition.undescribed) = checkNamesDistinct types := by
  have repeated : ∀ seen, repeatedName? seen (types.map TypeDefinition.undescribed) =
      repeatedName? seen types := by
    intro seen
    induction types generalizing seen with
    | nil => rfl
    | cons d types ih =>
      rw [List.map_cons, repeatedName?, repeatedName?, TypeDefinition.name_undescribed, ih]
  unfold checkNamesDistinct
  rw [repeated]

theorem checkExports_undescribed (info : Info) :
    checkExports info (types.map TypeDefinition.undescribed) = checkExports info types := by
  unfold checkExports
  simp only [declared?_undescribed, Option.isNone_map]

def undescribed (s : Schema) : Schema :=
  { s with
    types := s.types.map TypeDefinition.undescribed
    extensions := undescribedTable s.extensions
    fieldTypes := undescribedTable s.fieldTypes }

/-- Whether and what definitions build does not depend on their descriptions. -/
theorem build_undescribed (info : Info) (limits : Limits) :
    (build info types limits .entered).map undescribed =
      (build info (types.map TypeDefinition.undescribed) limits .entered).map undescribed := by
  unfold build
  rw [List.length_map, checkNamesDistinct_undescribed, checkExports_undescribed]
  refine Except.map_bind_congr (p := id) rfl fun _ _ _ => ?_
  refine Except.map_bind_congr (p := id) rfl fun _ _ _ => ?_
  refine Except.map_bind_congr (p := id) rfl fun _ _ _ => ?_
  refine Except.map_bind_congr (Extensions.ofTypes_undescribed types)
    fun extensions extensions' same => ?_
  have refined := refinedFieldTypes_undescribed types same
  have patterns : compiledPatterns (types ++ (refinedFieldTypes types extensions).map Prod.snd) =
      compiledPatterns (types.map TypeDefinition.undescribed ++
        (refinedFieldTypes (types.map TypeDefinition.undescribed) extensions').map Prod.snd) := by
    have values : ∀ table : List ((String × String) × TypeDefinition),
        (table.map Prod.snd).map TypeDefinition.undescribed =
          (undescribedTable table).map Prod.snd := by
      intro table
      rw [undescribedTable, List.map_map, List.map_map]
      rfl
    rw [← compiledPatterns_undescribed, ← compiledPatterns_undescribed (_ ++ _), List.map_append,
      List.map_append, values, values, refined, List.map_map]
    simp [Function.comp_def]
  dsimp only
  rw [patternTable_entered, patternTable_entered, patterns]
  refine Except.map_bind_congr (p := id) rfl fun compiled _ equal => congrArg Except.ok ?_
  cases equal
  simp [undescribed, same, refined, Function.comp_def]

variable {types}

/-- Definitions equal up to descriptions build schemas equal up to descriptions. -/
theorem exists_build_of_undescribed {types' : List TypeDefinition} {info : Info} {limits : Limits}
    {order : HashOrder} {s : Schema} (h : build info types limits order = .ok s)
    (same : types.map TypeDefinition.undescribed = types'.map TypeDefinition.undescribed) :
    ∃ t, (∀ order', build info types' limits order' = .ok t) ∧ s.undescribed = t.undescribed := by
  have equal : (build info types limits .entered).map undescribed =
      (build info types' limits .entered).map undescribed := by
    rw [build_undescribed types, same, ← build_undescribed types']
  obtain ⟨t, made, alike⟩ := Except.exists_ok_of_map_eq equal ((build_eq_ok_iff order _).mp h)
  exact ⟨t, fun order' => (build_eq_ok_iff _ order').mp made, alike⟩

end Schema

end Derived

namespace Schema

theorem Built.exists_truncateDescriptions {s : Schema} (built : s.Built) (width : Nat) :
    ∃ t, (∀ order, s.truncateDescriptions width order = .ok t) ∧ t.undescribed = s.undescribed := by
  have same : s.types.map TypeDefinition.undescribed =
      (s.types.map (TypeDefinition.mapDescriptions (truncate width))).map
        TypeDefinition.undescribed := by
    simp [Function.comp_def]
  obtain ⟨_, rebuilt⟩ := built.rebuilt
  obtain ⟨t, made, equal⟩ := exists_build_of_undescribed rebuilt same
  exact ⟨t, made, equal.symm⟩

theorem truncateDescriptions_truncateDescriptions {s t : Schema} {width : Nat} {order : HashOrder}
    (h : s.truncateDescriptions width order = .ok t) (width' : Nat) (order' : HashOrder) :
    t.truncateDescriptions width' order' = s.truncateDescriptions (min width width') order' := by
  have made := tables_of_build h
  unfold truncateDescriptions
  rw [made.info_eq, made.types_eq, made.limits_eq, List.map_map]
  simp only [Function.comp_def, TypeDefinition.mapDescriptions_mapDescriptions, truncate_truncate]

end Schema

end Jadn
