import Jadn.Proofs.Expansion.Idempotence
import Jadn.Proofs.Schema.Building
import Jadn.Proofs.Schema.Coherence
import Jadn.Proofs.Validation.Locality

/-!
The order of definitions.

Names are distinct, so what is declared under a name does not depend on the order of definitions,
and neither do the paths through their fields, the items that enumerations take from each other,
what a reference stands for, or the types of fields. So the definitions of a document build in any
order or in none, and whatever the order, instances have the same verbose forms and the same
outcomes. Only an enumeration that goes by a marked reference itself may hide that the reference
leads to something without an enumeration, and that just in some orders.
-/

set_option autoImplicit false

namespace Jadn

section Declared

variable {types types' : List TypeDefinition} (distinct : (types.map (·.name)).Nodup)

include distinct in
theorem declared?_eq_some_iff {name : String} {d : TypeDefinition} :
    declared? types name = some d ↔ d ∈ types ∧ d.name = name := by
  constructor
  · exact mem_of_declared?
  · rintro ⟨hd, rfl⟩
    exact declared?_of_mem distinct hd

variable (permuted : types.Perm types')

include distinct permuted

theorem distinct_of_perm : (types'.map (·.name)).Nodup :=
  (permuted.map _).nodup_iff.mp distinct

theorem declared?_perm : declared? types' = declared? types := by
  funext name
  ext d
  simp only [declared?_eq_some_iff distinct,
    declared?_eq_some_iff (distinct_of_perm distinct permuted), permuted.mem_iff]

namespace Extensions

theorem paths_perm : paths types' = paths types := by
  have nested : nested? types' = nested? types := by
    funext f
    rw [nested?, nested?, declared?_perm distinct permuted]
  funext fuel
  induction fuel with
  | zero => rfl
  | succ fuel ih =>
    funext entered d
    simp only [paths, nested, ih]

theorem items?_perm : items? types' = items? types := by
  have pathItems : pathItems types' = pathItems types := by
    funext d
    rw [pathItems, pathItems, paths_perm distinct permuted, permuted.length_eq]
  funext d
  unfold items?
  rw [declared?_perm distinct permuted, pathItems]

theorem own?_perm : own? types' = own? types := by
  funext d
  rw [own?, own?, items?_perm distinct permuted]

theorem derived?_perm : derived? types' = derived? types := by
  funext reference
  rw [derived?, derived?, declared?_perm distinct permuted]

theorem enumerable_perm : Enumerable types' = Enumerable types := by
  funext reference
  rw [Enumerable, Enumerable, declared?_perm distinct permuted]

omit distinct in
theorem mem_markedReferences_perm {reference : String} :
    reference ∈ types'.flatMap (·.markedReferences) ↔
      reference ∈ types.flatMap (·.markedReferences) := by
  simp only [List.mem_flatMap, permuted.mem_iff]

theorem NamesApart.perm (apart : NamesApart types) : NamesApart types' := by
  intro d hd stands
  rw [own?_perm distinct permuted, enumerable_perm distinct permuted]
  exact apart d (permuted.mem_iff.mpr hd) ((mem_markedReferences_perm permuted).mp stands)

theorem Derivable.perm {d : TypeDefinition} (derivable : Derivable types d) :
    Derivable types' d where
  own := items?_perm distinct permuted ▸ derivable.own
  listed := enumerable_perm distinct permuted ▸ derivable.listed

theorem exists_ofTypes_perm (apart : NamesApart types) {table : Dict TypeDefinition}
    (derived : ofTypes types = .ok table) : ∃ table', ofTypes types' = .ok table' := by
  have derivable := (exists_ofTypes_iff apart).mp ⟨table, derived⟩
  refine (exists_ofTypes_iff (apart.perm distinct permuted)).mpr fun d hd => ?_
  exact (derivable d (permuted.mem_iff.mpr hd)).perm distinct permuted

theorem lookup_ofTypes_perm {table table' : Dict TypeDefinition}
    (derived : ofTypes types = .ok table) (derived' : ofTypes types' = .ok table')
    (key : String) : table'.lookup key = table.lookup key := by
  rw [lookup_ofTypes distinct derived, lookup_ofTypes (distinct_of_perm distinct permuted) derived',
    declared?_perm distinct permuted, own?_perm distinct permuted,
    derived?_perm distinct permuted]
  simp only [mem_markedReferences_perm permuted]

end Extensions

section Resolved

variable {table table' : Dict TypeDefinition} (derived : Extensions.ofTypes types = .ok table)
  (derived' : Extensions.ofTypes types' = .ok table')
include derived derived'

theorem resolve?_perm : resolve? types' table' = resolve? types table := by
  funext reference
  rw [resolve?, resolve?, Extensions.lookup_ofTypes_perm distinct permuted derived derived',
    declared?_perm distinct permuted]

theorem mem_refinedFieldTypes_perm {entry : (String × String) × TypeDefinition} :
    entry ∈ Schema.refinedFieldTypes types' table' ↔
      entry ∈ Schema.refinedFieldTypes types table := by
  simp only [mem_refinedFieldTypes_iff, permuted.mem_iff,
    resolve?_perm distinct permuted derived derived']

end Resolved

end Declared

namespace Schema

section Build

variable {info : Info} {limits : Limits} {types types' : List TypeDefinition} {s t : Schema}
  {order order' : HashOrder} (permuted : types.Perm types')
  (built : build info types limits order = .ok s)
include permuted built

/-- Definitions build in any order or in none. -/
theorem exists_build_perm (apart : Extensions.NamesApart types) :
    ∃ t, build info types' limits order' = .ok t := by
  have tables := tables_of_build built
  have distinct' := distinct_of_perm tables.distinct permuted
  obtain ⟨table', derived'⟩ :=
    Extensions.exists_ofTypes_perm tables.distinct permuted apart tables.extensions
  have compile := exists_compiledPatterns_iff.mp ⟨_, tables.patterns⟩
  -- What the second list declares and refines was declared and refined by the first.
  have compile' : ∀ d ∈ types' ++ (refinedFieldTypes types' table').map Prod.snd,
      d.options.PatternCompiles := by
    refine fun d hd => compile d ?_
    rw [tables.fieldTypes]
    simpa only [List.mem_append, List.mem_map, permuted.mem_iff,
      mem_refinedFieldTypes_perm tables.distinct permuted tables.extensions derived'] using hd
  obtain ⟨patterns, compiled⟩ := exists_compiledPatterns_iff.mpr compile'
  refine ⟨{ info, types := types', limits, extensions := table',
            fieldTypes := refinedFieldTypes types' table', patterns },
    build_of_tables ⟨rfl, rfl, rfl, ?_, distinct', ?_, derived', rfl, compiled⟩⟩
  · exact permuted.length_eq ▸ tables.count
  · exact declared?_perm tables.distinct permuted ▸ tables.exported

variable (built' : build info types' limits order' = .ok t)
include built'

theorem lookup?_perm : t.lookup? = s.lookup? := by
  have tables := tables_of_build built
  have tables' := tables_of_build built'
  funext reference
  rw [tables.lookup?_eq, tables'.lookup?_eq,
    resolve?_perm tables.distinct permuted tables.extensions tables'.extensions]

theorem fieldType?_perm (formed : ∀ d ∈ types, d.WellFormed) : t.fieldType? = s.fieldType? := by
  have tables := tables_of_build built
  have tables' := tables_of_build built'
  have formed' : ∀ d ∈ types', d.WellFormed := fun d hd => formed d (permuted.mem_iff.mpr hd)
  have keys : ((refinedFieldTypes types s.extensions).map Prod.fst).Nodup :=
    nodup_refinedFieldTypes tables.distinct formed
  have keys' : ((refinedFieldTypes types' t.extensions).map Prod.fst).Nodup :=
    nodup_refinedFieldTypes tables'.distinct formed'
  have entries : ∀ key, t.fieldTypes.lookup key = s.fieldTypes.lookup key := by
    rw [tables.fieldTypes, tables'.fieldTypes]
    refine lookup_congr keys' keys fun entry => ?_
    exact mem_refinedFieldTypes_perm tables.distinct permuted tables.extensions tables'.extensions
  funext owner f
  rw [fieldType?, fieldType?, entries, lookup?_perm permuted built built']

/-- Instances do not tell in which order definitions were given. -/
theorem validate_perm (formed : ∀ d ∈ types, d.WellFormed) (name : String) (v : Json) :
    t.validate name v = s.validate name v ∧ t.expand name v = s.expand name v := by
  have tables := tables_of_build built
  have tables' := tables_of_build built'
  have lookup := lookup?_perm permuted built built'
  have fieldType := fieldType?_perm permuted built built' formed
  have limits : t.limits = s.limits := tables'.limits_eq.trans tables.limits_eq.symm
  have config : t.config = s.config :=
    congrArg Info.config (tables'.info_eq.trans tables.info_eq.symm)
  have region : Validation.Region t s fun _ => True := {
    bounds := .of_eq limits config
    compiled := tables'.compiled
    compiled' := tables.compiled
    fieldType := fun d _ f _ => ⟨by rw [fieldType], fun _ _ => trivial⟩
    reference := fun d _ x _ => ⟨by rw [lookup], fun _ _ => trivial⟩ }
  constructor
  · exact region.validate_eq (by rw [lookup]) (fun _ _ => trivial) v
  · simp only [Schema.expand, TypeDefinition.expand, lookup, limits,
      Expansion.expandLevels_congr lookup fieldType]

end Build

section Documents

variable {members : Dict Json} {entries entries' : List Json}

theorem typesOfJson_eq_ok_iff {index : Nat} {types : List TypeDefinition} :
    typesOfJson index entries = .ok types ↔
      List.Forall₂ (fun entry d => TypeDefinition.ofJson entry = .ok d) entries types := by
  induction entries generalizing index types with
  | nil => cases types <;> simp [typesOfJson]
  | cons entry entries ih =>
    simp only [typesOfJson, Except.bind_eq_ok_iff, Except.mapError_eq_ok_iff, ih, pure, Except.pure,
      Except.ok.injEq, List.forall₂_cons_left_iff]
    constructor
    · rintro ⟨d, read, rest, others, rfl⟩
      exact ⟨d, rest, read, others, rfl⟩
    · rintro ⟨d, rest, read, others, rfl⟩
      exact ⟨d, read, rest, others, rfl⟩

theorem typesOfJson_perm (permuted : entries.Perm entries') {types : List TypeDefinition}
    (read : typesOfJson 0 entries = .ok types) :
    ∃ types', typesOfJson 0 entries' = .ok types' ∧ types.Perm types' := by
  obtain ⟨types', read', order⟩ :=
    List.perm_comp_forall₂ permuted.symm (typesOfJson_eq_ok_iff.mp read)
  exact ⟨types', typesOfJson_eq_ok_iff.mpr read', order.symm⟩

theorem ofJson_obj_eq_ok_iff (listed : members.lookup "types" = some (.arr entries)) {s : Schema}
    {order : HashOrder} :
    ofJson (.obj members) order = .ok s ↔ ∃ info types, infoOfJson members = .ok info ∧
      typesOfJson 0 entries = .ok types ∧ build info types {} order = .ok s := by
  have document : (Json.obj members).obj? = some members := rfl
  have listed' : (members.lookup "types").bind Json.arr? = some entries := by
    rw [listed]
    rfl
  simp only [ofJson, partsOfJson, document, listed', Except.bind_eq_ok_iff,
    Except.mapError_eq_ok_iff, pure, Except.pure, Except.ok.injEq, Prod.exists, Prod.mk.injEq]
  constructor
  · rintro ⟨info, types, ⟨_, said, _, read, rfl, rfl⟩, built⟩
    exact ⟨_, _, said, read, built⟩
  · rintro ⟨info, types, said, read, built⟩
    exact ⟨info, types, ⟨_, said, _, read, rfl, rfl⟩, built⟩

/-- What a document says about itself does not depend on its entries. -/
theorem infoOfJson_insert (entries : List Json) :
    infoOfJson (members.insert "types" (.arr entries)) = infoOfJson members := by
  have other : "info" ≠ "types" := by decide
  rw [infoOfJson, infoOfJson, Dict.lookup_insert_of_ne _ _ other]

/-- The order of the entries of a document does not matter. If no enumeration that takes its items
from elsewhere goes by a marked reference to something that has no enumeration, then the document is
read in any order or in none. Read in two orders, references stand for the same, and instances have
the same outcomes and verbose forms, errors included. -/
theorem ofJson_permuted (listed : members.lookup "types" = some (.arr entries))
    (permuted : entries.Perm entries') :
    ((∀ types, typesOfJson 0 entries = .ok types → Extensions.NamesApart types) →
      ∀ order order', (∃ s, ofJson (.obj members) order = .ok s) ↔
        ∃ t, ofJson (.obj (members.insert "types" (.arr entries'))) order' = .ok t) ∧
    ∀ order order' s t, ofJson (.obj members) order = .ok s →
      ofJson (.obj (members.insert "types" (.arr entries'))) order' = .ok t →
        s.types.Perm t.types ∧ (∀ reference, t.lookup? reference = s.lookup? reference) ∧
          ∀ name v, t.validate name v = s.validate name v ∧ t.expand name v = s.expand name v := by
  have read := fun {s} order => @ofJson_obj_eq_ok_iff _ _ listed s order
  have read' := fun {s} order => @ofJson_obj_eq_ok_iff _ _
    (Dict.lookup_insert_self members "types" (Json.arr entries')) s order
  simp only [infoOfJson_insert] at read'
  refine ⟨fun apart order order' => ⟨?_, ?_⟩, ?_⟩
  · rintro ⟨s, h⟩
    obtain ⟨info, types, said, given, built⟩ := (read order).mp h
    obtain ⟨types', given', moved⟩ := typesOfJson_perm permuted given
    obtain ⟨t, built'⟩ := exists_build_perm moved built (apart types given)
    exact ⟨t, (read' order').mpr ⟨info, types', said, given', built'⟩⟩
  · rintro ⟨t, h⟩
    obtain ⟨info, types', said, given', built'⟩ := (read' order').mp h
    obtain ⟨types, given, moved⟩ := typesOfJson_perm permuted.symm given'
    have distinct := distinct_of_perm (tables_of_build built').distinct moved
    obtain ⟨s, built⟩ := exists_build_perm moved built'
      ((apart types given).perm distinct moved.symm)
    exact ⟨s, (read order).mpr ⟨info, types, said, given, built⟩⟩
  · intro order order' s t h h'
    obtain ⟨info, types, said, given, built⟩ := (read order).mp h
    obtain ⟨types', given', moved⟩ := typesOfJson_perm permuted given
    obtain ⟨_, _, said', again, built'⟩ := (read' order').mp h'
    obtain rfl := Except.ok.inj (said.symm.trans said')
    obtain rfl := Except.ok.inj (given'.symm.trans again)
    have formed : ∀ d ∈ types, d.WellFormed :=
      (tables_of_build built).types_eq ▸ (ofJson_built h).wellFormed
    refine ⟨?_, congrFun (lookup?_perm moved built built'), ?_⟩
    · rw [(tables_of_build built).types_eq, (tables_of_build built').types_eq]
      exact moved
    · exact validate_perm moved built built' formed

/-- Entries that refer to what is behind them: the dish of a meal is one of a list that is derived
from a choice, and an alternative of the choice is an enumeration that takes its items from it. -/
def mealEntries : List Json := [
  .arr [.str "Meal", .str "Record", .arr [], .str "", .arr [
    .arr [.int 1, .str "dish", .str "#Dish", .arr []],
    .arr [.int 2, .str "guests", .str "Integer", .arr [.str "\x7b1"]]]],
  .arr [.str "Dish", .str "Choice", .arr [], .str "", .arr [
    .arr [.int 1, .str "soup", .str "Special", .arr []],
    .arr [.int 2, .str "stew", .str "String", .arr []]]],
  .arr [.str "Special", .str "Enumerated", .arr [.str "#Dish"], .str ""]]

/-- Turned round, the entries refer to what stands before them, and make up the same schema. -/
theorem ofJson_permuted_meal :
    ∃ s t, ofJson (.obj [("types", .arr mealEntries)]) .entered = .ok s ∧
      ofJson (.obj [("types", .arr mealEntries.reverse)]) .reversed = .ok t ∧
      s.typeNames = ["Meal", "Dish", "Special"] ∧ t.typeNames = ["Special", "Dish", "Meal"] ∧
      t.lookup? "#Dish" = s.lookup? "#Dish" ∧
      t.validate "Meal" (.obj [("dish", .str "stew"), ("guests", .int 0)]) =
        s.validate "Meal" (.obj [("dish", .str "stew"), ("guests", .int 0)]) := by
  have names : (typesOfJson 0 mealEntries).toOption.map (List.map (·.name)) =
      some ["Meal", "Dish", "Special"] := by decide +kernel
  have apart : ∀ types, typesOfJson 0 mealEntries = .ok types → Extensions.NamesApart types := by
    intro types read
    rw [read, Except.toOption_ok, Option.map_some, Option.some.injEq] at names
    refine .of_unmarked fun d hd => ?_
    have listed : d.name ∈ ["Meal", "Dish", "Special"] := names ▸ List.mem_map_of_mem hd
    simp only [List.mem_cons, List.not_mem_nil, or_false] at listed
    rcases listed with named | named | named <;> rw [named] <;> rfl
  have made : ((ofJson (.obj [("types", .arr mealEntries)]) .entered).toOption.map typeNames) =
      some ["Meal", "Dish", "Special"] := by decide +kernel
  have made' : ((ofJson (.obj [("types", .arr mealEntries.reverse)]) .reversed).toOption.map
        typeNames) =
      some ["Special", "Dish", "Meal"] := by decide +kernel
  have listed : ([("types", .arr mealEntries)] : Dict Json).lookup "types" =
      some (.arr mealEntries) := rfl
  obtain ⟨either, both⟩ := ofJson_permuted listed (List.reverse_perm mealEntries).symm
  obtain ⟨s, read, declared⟩ := Option.map_eq_some_iff.mp made
  have done := Except.toOption_eq_some_iff.mp read
  obtain ⟨t, done'⟩ := (either apart .entered .reversed).mp ⟨s, done⟩
  have declared' : t.typeNames = ["Special", "Dish", "Meal"] := by
    have same : ofJson (.obj [("types", .arr mealEntries.reverse)]) .reversed = .ok t := done'
    rw [same] at made'
    exact Option.some.inj made'
  obtain ⟨-, lookup, outcomes⟩ := both _ _ s t done done'
  exact ⟨s, t, done, done', declared, declared', lookup _, (outcomes _ _).1⟩

/-- An enumeration that goes by a marked reference to a text hides, if it stands before the
reference, that texts have no enumeration. -/
example :
    let roles : Json := .arr [.str "Roles", .str "Record", .arr [], .str "",
      .arr [.arr [.int 1, .str "guest", .str "String", .arr []]]]
    let role : Json := .arr [.str "#Name", .str "Enumerated", .arr [.str "#Roles"], .str ""]
    let name : Json := .arr [.str "Name", .str "String", .arr [], .str ""]
    let names : Json := .arr [.str "Names", .str "ArrayOf", .arr [.str "*#Name"], .str ""]
    (ofJson (.obj [("types", .arr [roles, role, name, names])]) .entered).isOk = true ∧
      (ofJson (.obj [("types", .arr [names, roles, role, name])]) .entered).isOk = false := by
  decide +kernel

end Documents

end Schema

end Jadn
