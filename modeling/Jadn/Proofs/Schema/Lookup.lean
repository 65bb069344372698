import Jadn.Proofs.Built
import Jadn.Proofs.References
import Jadn.Proofs.Validation.Simulation
import Mathlib.Data.List.Nodup

/-!
What a schema that was built looks up.

A name denotes the enumeration that takes its items from elsewhere, if it is that of one, or
else the definition declared under it, or else a base type. A marked reference that stands in
a definition denotes the enumeration of the fields of a declared type. The type of a field is
what the field refers to, with the type options of the field.
-/

set_option autoImplicit false

namespace Jadn

namespace Extensions

variable {types : List TypeDefinition}

/-- An enumeration with the items that it takes from another definition. -/
def own? (types : List TypeDefinition) (d : TypeDefinition) : Option TypeDefinition :=
  (items? types d).toOption.join.map fun items => { d with kind := .enumerated items }

/-- The enumeration of the fields of the definition that a reference names. -/
def derived? (types : List TypeDefinition) (reference : String) : Option TypeDefinition :=
  (declared? types (splitMarker reference).2).bind fun d => d.toEnumeration.toOption

theorem derived?_eq_some_iff {reference : String} {e : TypeDefinition} :
    derived? types reference = some e ↔
      ∃ d, declared? types (splitMarker reference).2 = some d ∧ d.toEnumeration = .ok e := by
  simp [derived?, Option.bind_eq_some_iff, Except.toOption_eq_some_iff]

section Taken

variable {d : TypeDefinition}

theorem own?_of_items? {taken : Option (List Item)} (found : items? types d = .ok taken) :
    own? types d = taken.map fun items => { d with kind := .enumerated items } := by
  rw [own?, found]
  rfl

theorem taken_of_enumeration {items : List Item} {a : String} (kind : d.kind = .enumerated items)
    (source : d.options.enumeration = some a) :
    (items? types d).toOption.join = (derived? types a).map TypeDefinition.items := by
  simp only [items?, kind, source, derived?]
  cases declared? types (splitMarker a).2 with
  | none => rfl
  | some t => cases derived : t.toEnumeration <;> simp [derived, Except.map, Except.toOption]

theorem taken_of_pointer {items : List Item} {a : String} (kind : d.kind = .enumerated items)
    (source : d.options.enumeration = none) (target : d.options.pointer = some a) :
    (items? types d).toOption.join = (declared? types a).map (pathItems types) := by
  simp only [items?, kind, source, target, Except.toOption_ok, Option.join_some]

theorem taken_of_none (source : d.options.enumeration = none) (target : d.options.pointer = none) :
    (items? types d).toOption.join = none := by
  simp only [items?, source, target]
  cases d.kind <;> rfl

theorem taken_of_other (other : ¬ ∃ items, d.kind = .enumerated items) :
    (items? types d).toOption.join = none := by
  unfold items?
  split
  · next kind _ => exact absurd ⟨_, kind⟩ other
  · next kind _ _ => exact absurd ⟨_, kind⟩ other
  · rfl

theorem enumerated_of_own? {e : TypeDefinition} (own : own? types d = some e) :
    ∃ items, d.kind = .enumerated items := by
  by_contra other
  rw [own?, taken_of_other other] at own
  cases own

end Taken

theorem lookup_addOwn {table table' : Dict TypeDefinition} {d : TypeDefinition}
    (added : addOwn types table d = .ok table') (key : String) :
    table'.lookup key = (if d.name = key then own? types d else none).or (table.lookup key) := by
  rw [addOwn, Except.bind_eq_ok_iff] at added
  obtain ⟨items, taken, added⟩ := added
  split at added
  · next items =>
    rw [Except.bind_eq_ok_iff] at added
    obtain ⟨e, created, added⟩ := added
    cases added
    obtain ⟨rfl, -⟩ := TypeDefinition.create_eq_ok_iff.mp (Except.mapError_eq_ok_iff.mp created)
    by_cases same : d.name = key
    · subst same
      simp [own?, taken, Except.toOption_ok]
    · rw [Dict.lookup_insert_of_ne _ _ (Ne.symm same)]
      simp [same]
  · cases added
    simp [own?, taken, Except.toOption_ok]

theorem lookup_addReference {table table' : Dict TypeDefinition} {reference : String}
    (added : addReference types table reference = .ok table') (key : String) :
    table'.lookup key =
      (table.lookup key).or (if reference = key then derived? types reference else none) := by
  unfold addReference at added
  split at added
  · next present =>
    cases added
    by_cases same : reference = key
    · subst same
      obtain ⟨e, found⟩ := Option.isSome_iff_exists.mp present
      simp [found]
    · simp [same]
  · next absent =>
    have free : table.lookup reference = none := Option.not_isSome_iff_eq_none.mp absent
    split at added
    · next d declared =>
      rw [Except.bind_eq_ok_iff] at added
      obtain ⟨e, listed, added⟩ := added
      cases added
      by_cases same : reference = key
      · subst same
        simp [free, derived?, declared, listed, Except.toOption_ok]
      · rw [Dict.lookup_insert_of_ne _ _ (Ne.symm same)]
        simp [same]
    · next undeclared =>
      cases added
      simp [derived?, undeclared]

theorem lookup_addReferences {references : List String} {table table' : Dict TypeDefinition}
    (added : references.foldlM (addReference types) table = .ok table') (key : String) :
    table'.lookup key =
      (table.lookup key).or (if key ∈ references then derived? types key else none) := by
  induction references generalizing table with
  | nil =>
    cases added
    simp
  | cons reference references ih =>
    rw [List.foldlM_cons, Except.bind_eq_ok_iff] at added
    obtain ⟨next, first, added⟩ := added
    rw [ih added, lookup_addReference first]
    by_cases same : reference = key
    · subst same
      cases table.lookup reference <;> cases derived? types reference <;> simp
    · simp [same, Ne.symm same]

theorem splitMarker_of_mem_markedReferences {d : TypeDefinition} {reference : String}
    (h : reference ∈ d.markedReferences) : (splitMarker reference).1 = true :=
  (List.mem_filter.mp h).2

/-- What a table has for a key once definitions are added: the one of this name with the items that
it takes from elsewhere, or else what was there, or else the enumeration that the key denotes as a
reference that stands in one of them. -/
theorem lookup_addAll_foldlM {ds : List TypeDefinition} {table table' : Dict TypeDefinition}
    (distinct : (ds.map (·.name)).Nodup) (added : ds.foldlM (addAll types) table = .ok table')
    (key : String) :
    table'.lookup key = ((declared? ds key).bind (own? types)).or ((table.lookup key).or
      (if key ∈ ds.flatMap (·.markedReferences) then derived? types key else none)) := by
  induction ds generalizing table with
  | nil =>
    cases added
    simp [declared?]
  | cons d ds ih =>
    rw [List.foldlM_cons, Except.bind_eq_ok_iff] at added
    obtain ⟨next, first, added⟩ := added
    rw [List.map_cons, List.nodup_cons] at distinct
    rw [addAll, Except.bind_eq_ok_iff] at first
    obtain ⟨own, owned, referred⟩ := first
    have references : (if key ∈ (d :: ds).flatMap (·.markedReferences) then derived? types key
        else none) = (if key ∈ d.markedReferences then derived? types key else none).or
          (if key ∈ ds.flatMap (·.markedReferences) then derived? types key else none) := by
      by_cases here : key ∈ d.markedReferences <;> cases derived? types key <;> simp [here]
    rw [ih distinct.2 added, lookup_addReferences referred, lookup_addOwn owned, references]
    by_cases same : d.name = key
    · have undeclared : declared? ds key = none := by
        rw [← Option.not_isSome_iff_eq_none, declared?_isSome_iff, ← same]
        exact distinct.1
      have found : declared? (d :: ds) key = some d := by simp [declared?, same]
      simp [undeclared, found, same, Option.or_assoc]
    · have later : declared? (d :: ds) key = declared? ds key := by simp [declared?, same]
      simp [later, same, Option.or_assoc]

section Derived

variable {table : Dict TypeDefinition} (distinct : (types.map (·.name)).Nodup)
  (derived : ofTypes types = .ok table)
include distinct derived

theorem lookup_ofTypes (key : String) :
    table.lookup key = ((declared? types key).bind (own? types)).or
      (if key ∈ types.flatMap (·.markedReferences) then derived? types key else none) := by
  rw [lookup_addAll_foldlM distinct derived]
  simp

theorem lookup_of_unmarked {key : String} (unmarked : Unmarked key) :
    table.lookup key = (declared? types key).bind (own? types) := by
  have apart : key ∉ types.flatMap (·.markedReferences) := by
    intro member
    obtain ⟨d, -, stands⟩ := List.mem_flatMap.mp member
    exact unmarked.not_marked (splitMarker_of_mem_markedReferences stands)
  rw [lookup_ofTypes distinct derived, if_neg apart, Option.or_none]

theorem lookup_of_marked {key : String} (undeclared : declared? types key = none) :
    table.lookup key =
      if key ∈ types.flatMap (·.markedReferences) then derived? types key else none := by
  rw [lookup_ofTypes distinct derived, undeclared]
  rfl

end Derived

end Extensions

theorem TypeDefinition.refined_of_not_hasTypeOptions {d : TypeDefinition} {o : Options}
    (h : o.hasTypeOptions = false) : d.refined d.name o.typeOptions = d := by
  have equal : (o.typeOptions == Options.empty) = true := by
    simpa [Options.hasTypeOptions, Options.isEmpty] using h
  obtain ⟨same, least, most⟩ := Options.eq_of_beq equal
  have none : ∀ {x : Option Binary64}, (x == none) = true → x = none := by
    intro x h
    cases x with
    | none => rfl
    | some x => cases h
  have least := none least
  have most := none most
  have empty : o.typeOptions = Options.empty := by
    generalize o.typeOptions = p at same least most ⊢
    cases p
    cases least
    cases most
    exact same.symm
  rw [empty]
  rfl

theorem builtin?_of_marked {reference : String} (marked : (splitMarker reference).1 = true) :
    builtin? reference = none := by
  cases known : BaseType.ofName? reference with
  | none => simp [builtin?, known]
  | some base =>
    have plain : (splitMarker reference).1 = false := unmarked_of_baseType (by simp [known])
    rw [plain] at marked
    cases marked

theorem Schema.get?_of_marked {s : Schema} (unmarked : ∀ d ∈ s.types, Unmarked d.name) {x : String}
    (marked : (splitMarker x).1 = true) : s.get? x = none := by
  cases found : s.get? x with
  | none => rfl
  | some d =>
    obtain ⟨hd, rfl⟩ := mem_of_declared? found
    exact absurd marked (unmarked d hd).not_marked

section Resolved

variable {types : List TypeDefinition} {table : Dict TypeDefinition}

section Names

variable (distinct : (types.map (·.name)).Nodup) (derived : Extensions.ofTypes types = .ok table)
include distinct derived

/-- The name of a derived enumeration stands for it, other names for what is declared under
them or built in. -/
theorem resolve?_of_unmarked {name : String} (unmarked : Unmarked name) :
    resolve? types table name = ((declared? types name).bind (Extensions.own? types)).or
      ((declared? types name).or (builtin? name)) := by
  simp only [resolve?, Option.orElse_eq_orElse, Option.orElse_eq_or,
    Extensions.lookup_of_unmarked distinct derived unmarked]

/-- A marked reference stands for an enumeration if it stands in a definition, unless one is
declared under it. -/
theorem resolve?_of_undeclared {reference : String} (undeclared : declared? types reference = none)
    (marked : (splitMarker reference).1 = true) :
    resolve? types table reference = if reference ∈ types.flatMap (·.markedReferences) then
      Extensions.derived? types reference else none := by
  simp only [resolve?, Option.orElse_eq_orElse, Option.orElse_eq_or,
    Extensions.lookup_of_marked distinct derived undeclared, undeclared,
    builtin?_of_marked marked, Option.or_none]

end Names

theorem mem_refinedFieldTypes_iff {entry : (String × String) × TypeDefinition} :
    entry ∈ Schema.refinedFieldTypes types table ↔ ∃ d ∈ types, ∃ f ∈ d.fields,
      f.options.hasTypeOptions = true ∧ ∃ t, resolve? types table f.typeRef = some t ∧
        entry = ((d.name, f.name), t.refined t.name f.options.typeOptions) := by
  rw [Schema.refinedFieldTypes]
  simp only [List.mem_flatMap, List.mem_filterMap]
  refine exists_congr fun d => and_congr_right fun _ => exists_congr fun f =>
    and_congr_right fun _ => ?_
  cases f.options.hasTypeOptions with
  | false => simp
  | true =>
    rw [if_pos rfl, Option.map_eq_some_iff]
    simp [eq_comm]

end Resolved

namespace Schema.Tables

variable {info : Info} {types : List TypeDefinition} {limits : Limits} {s : Schema}
  (tables : Tables info types limits s)
include tables

theorem lookup?_eq (reference : String) :
    s.lookup? reference = resolve? types s.extensions reference := by
  rw [lookup?, tables.types_eq]

theorem lookup?_of_unmarked {name : String} (unmarked : Unmarked name) :
    s.lookup? name = ((declared? types name).bind (Extensions.own? types)).or
      ((declared? types name).or (builtin? name)) := by
  rw [tables.lookup?_eq, resolve?_of_unmarked tables.distinct tables.extensions unmarked]

theorem lookup?_of_undeclared {reference : String} (undeclared : declared? types reference = none)
    (marked : (splitMarker reference).1 = true) :
    s.lookup? reference = if reference ∈ types.flatMap (·.markedReferences) then
      Extensions.derived? types reference else none := by
  rw [tables.lookup?_eq, resolve?_of_undeclared tables.distinct tables.extensions undeclared marked]

theorem lookup?_of_marked {reference : String} (undeclared : declared? types reference = none)
    (marked : (splitMarker reference).1 = true)
    (stands : reference ∈ types.flatMap (·.markedReferences)) :
    s.lookup? reference = Extensions.derived? types reference := by
  rw [tables.lookup?_of_undeclared undeclared marked, if_pos stands]

theorem mem_fieldTypes_iff {entry : (String × String) × TypeDefinition} :
    entry ∈ s.fieldTypes ↔ ∃ d ∈ types, ∃ f ∈ d.fields, f.options.hasTypeOptions = true ∧
      ∃ t, s.lookup? f.typeRef = some t ∧
        entry = ((d.name, f.name), t.refined t.name f.options.typeOptions) := by
  simp only [tables.fieldTypes, tables.lookup?_eq, mem_refinedFieldTypes_iff]

/-- The type of a field is what the field refers to, with the type options of the field. -/
theorem fieldType?_eq {d : TypeDefinition} (hd : d ∈ types)
    (names : (d.fields.map Field.name).Nodup) {f : Field} (hf : f ∈ d.fields) :
    s.fieldType? d.name f =
      (s.lookup? f.typeRef).map fun t => t.refined t.name f.options.typeOptions := by
  -- Entries for the name of the definition and that of the field are those of this field.
  have own : ∀ t, ((d.name, f.name), t) ∈ s.fieldTypes → f.options.hasTypeOptions = true ∧
      ∃ u, s.lookup? f.typeRef = some u ∧ t = u.refined u.name f.options.typeOptions := by
    intro t entry
    obtain ⟨d', hd', g, hg, refines, u, found, same⟩ := tables.mem_fieldTypes_iff.mp entry
    simp only [Prod.mk.injEq] at same
    obtain ⟨⟨owner, name⟩, rfl⟩ := same
    have : d' = d := List.inj_on_of_nodup_map tables.distinct hd' hd owner.symm
    subst this
    have : g = f := List.inj_on_of_nodup_map names hg hf name.symm
    subst this
    exact ⟨refines, u, found, rfl⟩
  rw [fieldType?, Option.orElse_eq_orElse, Option.orElse_eq_or]
  cases entry : s.fieldTypes.lookup (d.name, f.name) with
  | some t =>
    obtain ⟨-, u, found, rfl⟩ := own t (mem_of_lookup entry)
    simp [found]
  | none =>
    cases found : s.lookup? f.typeRef with
    | none => rfl
    | some u =>
      cases refines : f.options.hasTypeOptions with
      | true =>
        have listed := tables.mem_fieldTypes_iff.mpr ⟨d, hd, f, hf, refines, u, found, rfl⟩
        rw [List.lookup_eq_none_iff] at entry
        simpa using entry _ listed
      | false => simp [TypeDefinition.refined_of_not_hasTypeOptions refines]

theorem compiled : Validation.Compiled s :=
  compiles_of_compiledPatterns tables.patterns

theorem own : Tables s.info s.types s.limits s := by
  have own := tables
  rwa [← tables.info_eq, ← tables.types_eq, ← tables.limits_eq] at own

end Schema.Tables

namespace Extensions

variable {types : List TypeDefinition}

theorem length_lt_of_not_mem {entered : List String} {d : TypeDefinition}
    (distinct : entered.Nodup) (declared : ∀ name ∈ entered, name ∈ types.map (·.name))
    (hd : d ∈ types) (fresh : d.name ∉ entered) : entered.length < types.length := by
  have more : (d.name :: entered).length ≤ (types.map (·.name)).length := by
    refine List.Nodup.length_le_of_subset (List.nodup_cons.mpr ⟨fresh, distinct⟩) ?_
    exact List.forall_mem_cons.mpr ⟨List.mem_map_of_mem hd, declared⟩
  rw [List.length_cons, List.length_map] at more
  omega

theorem paths_add {entered : List String} (distinct : entered.Nodup)
    (declared : ∀ name ∈ entered, name ∈ types.map (·.name)) {d : TypeDefinition} (hd : d ∈ types)
    {fuel : Nat} (enough : types.length < fuel + entered.length) (more : Nat) :
    paths types (fuel + more) entered d = paths types fuel entered d := by
  induction fuel generalizing entered d with
  | zero =>
    have present : d.name ∈ entered := by
      by_contra fresh
      have := length_lt_of_not_mem distinct declared hd fresh
      omega
    cases more with
    | zero => rfl
    | succ more => simp [paths, present]
  | succ fuel ih =>
    rw [Nat.add_right_comm, paths, paths]
    by_cases present : d.name ∈ entered
    · rw [if_pos present, if_pos present]
    · rw [if_neg present, if_neg present]
      refine List.flatMap_congr fun f hf => ?_
      cases inner : nested? types f with
      | none => rfl
      | some e =>
        have found := (Option.filter_eq_some_iff.mp inner).1
        have entered' : ∀ name ∈ d.name :: entered, name ∈ types.map (·.name) :=
          List.forall_mem_cons.mpr ⟨List.mem_map_of_mem hd, declared⟩
        have further := ih (List.nodup_cons.mpr ⟨present, distinct⟩) entered'
          (mem_of_declared? found).1 (by simp only [List.length_cons]; omega)
        simp only [further]

/-- Definitions below which there are the same paths have the same ones as items. -/
theorem pathItems_congr {types' : List TypeDefinition} {d e : TypeDefinition} (hd : d ∈ types)
    (he : e ∈ types') (same : ∀ fuel, paths types fuel [] d = paths types' fuel [] e) :
    pathItems types d = pathItems types' e := by
  have enough : paths types (types.length + 1 + types'.length) [] d =
      paths types (types.length + 1) [] d :=
    paths_add List.nodup_nil (by simp) hd (by simp) _
  have enough' : paths types' (types'.length + 1 + types.length) [] e =
      paths types' (types'.length + 1) [] e :=
    paths_add List.nodup_nil (by simp) he (by simp) _
  have fuel : types.length + 1 + types'.length = types'.length + 1 + types.length := by omega
  rw [pathItems, pathItems, ← enough, same, fuel, enough']

end Extensions

end Jadn
