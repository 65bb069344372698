import Jadn.Proofs.Schema.Lookup

/-!
When a schema builds.

It does if its names are few enough and distinct, its exports are declared, every derived
enumeration has items and these are distinct, and the patterns of its definitions and of their
fields compile. Patterns that a field inherits from its type stand in a definition already.
-/

set_option autoImplicit false

namespace Jadn

namespace Extensions

variable {types : List TypeDefinition} {table : Dict TypeDefinition}

def Enumerable (types : List TypeDefinition) (reference : String) : Prop :=
  ∀ d, declared? types (splitMarker reference).2 = some d → ∃ e, d.toEnumeration = .ok e

/-- The items that a definition takes from elsewhere are there and distinct, and so are the
enumerations that its marked references denote. -/
structure Derivable (types : List TypeDefinition) (d : TypeDefinition) : Prop where
  own : ∃ taken, items? types d = .ok taken ∧
    ∀ items, taken = some items → TypeDefinition.WellFormed { d with kind := .enumerated items }
  listed : ∀ reference ∈ d.markedReferences, Enumerable types reference

/-- A table has nothing under a reference, unless what the reference names has an enumeration. -/
def Guarded (types : List TypeDefinition) (reference : String) (table : Dict TypeDefinition) :
    Prop :=
  table.lookup reference = none ∨ Enumerable types reference

section Guarded

variable {reference : String} {table' : Dict TypeDefinition}
  (guarded : Guarded types reference table)
include guarded

theorem Guarded.addOwn {d : TypeDefinition} (apart : d.name = reference → own? types d = none)
    (added : Extensions.addOwn types table d = .ok table') : Guarded types reference table' := by
  refine guarded.imp_left fun free => ?_
  rw [lookup_addOwn added, free, ite_eq_right_iff.mpr apart]
  rfl

theorem Guarded.enumerable
    (added : Extensions.addReference types table reference = .ok table') :
    Enumerable types reference := by
  rcases guarded with free | enumerable
  · intro d declared
    unfold Extensions.addReference at added
    rw [if_neg (by simp [Dict.contains, free]), declared, Except.bind_eq_ok_iff] at added
    obtain ⟨e, listed, -⟩ := added
    exact ⟨e, listed⟩
  · exact enumerable

theorem Guarded.addReference {r : String}
    (added : Extensions.addReference types table r = .ok table') :
    Guarded types reference table' := by
  by_cases same : r = reference
  · subst same
    exact Or.inr (guarded.enumerable added)
  · refine guarded.imp_left fun free => ?_
    rw [lookup_addReference added, if_neg same, free]
    rfl

theorem Guarded.addAll {d : TypeDefinition} (apart : d.name = reference → own? types d = none)
    (added : Extensions.addAll types table d = .ok table') : Guarded types reference table' := by
  rw [Extensions.addAll, Except.bind_eq_ok_iff] at added
  obtain ⟨own, first, added⟩ := added
  exact Except.foldlM_induction (Guarded types reference)
    (fun _ _ _ _ known added => known.addReference added) (guarded.addOwn apart first) added

end Guarded

/-- No enumeration that takes its items from elsewhere goes by a marked reference that stands in a
definition, unless what this reference names has an enumeration, too. -/
def NamesApart (types : List TypeDefinition) : Prop :=
  ∀ d ∈ types, d.name ∈ types.flatMap (·.markedReferences) →
    own? types d = none ∨ Enumerable types d.name

theorem NamesApart.of_unmarked (unmarked : ∀ d ∈ types, Unmarked d.name) : NamesApart types := by
  intro d hd stands
  obtain ⟨e, -, listed⟩ := List.mem_flatMap.mp stands
  exact absurd (splitMarker_of_mem_markedReferences listed) (unmarked d hd).not_marked

def Sound (types : List TypeDefinition) (table : Dict TypeDefinition) : Prop :=
  ∀ reference ∈ types.flatMap (·.markedReferences), Guarded types reference table

theorem Sound.addOwn {table' : Dict TypeDefinition} {d : TypeDefinition}
    (sound : Sound types table) (apart : d.name ∈ types.flatMap (·.markedReferences) →
      own? types d = none ∨ Enumerable types d.name)
    (added : Extensions.addOwn types table d = .ok table') : Sound types table' := by
  intro reference stands
  by_cases same : d.name = reference
  · subst same
    rcases apart stands with none | enumerable
    · exact (sound _ stands).addOwn (fun _ => none) added
    · exact Or.inr enumerable
  · exact (sound _ stands).addOwn (fun named => absurd named same) added

theorem Sound.addReference {table' : Dict TypeDefinition} {r : String} (sound : Sound types table)
    (added : Extensions.addReference types table r = .ok table') : Sound types table' :=
  fun reference stands => (sound reference stands).addReference added

theorem exists_addOwn_iff {d : TypeDefinition} :
    (∃ table', addOwn types table d = .ok table') ↔ ∃ taken, items? types d = .ok taken ∧
      ∀ items, taken = some items →
        TypeDefinition.WellFormed { d with kind := .enumerated items } := by
  simp only [addOwn, Except.bind_eq_ok_iff]
  rw [exists_comm]
  refine exists_congr fun taken => ?_
  rw [exists_and_left]
  refine and_congr_right fun _ => ?_
  cases taken with
  | none => simp [pure, Except.pure]
  | some items =>
    simp only [Except.bind_eq_ok_iff, Except.mapError_eq_ok_iff, TypeDefinition.create_eq_ok_iff]
    constructor
    · rintro ⟨_, _, ⟨rfl, formed⟩, -⟩ _ same
      cases same
      exact formed
    · intro formed
      exact ⟨_, _, ⟨rfl, formed items rfl⟩, rfl⟩

theorem exists_addReference_iff {reference : String} (guarded : Guarded types reference table) :
    (∃ table', addReference types table reference = .ok table') ↔ Enumerable types reference := by
  unfold addReference
  cases there : table.lookup reference with
  | some e =>
    have enumerable := guarded.resolve_left (by simp [there])
    simpa [Dict.contains, there, pure, Except.pure] using enumerable
  | none =>
    unfold Enumerable
    cases declared? types (splitMarker reference).2 with
    | none => simp [Dict.contains, there, pure, Except.pure]
    | some d => simp [Dict.contains, there, Except.bind_eq_ok_iff, pure, Except.pure]

/-- The enumerations of all definitions are derived if each can be. -/
theorem exists_ofTypes_iff (apart : NamesApart types) :
    (∃ table, ofTypes types = .ok table) ↔ ∀ d ∈ types, Derivable types d := by
  have stand : ∀ d ∈ types, ∀ r ∈ d.markedReferences, r ∈ types.flatMap (·.markedReferences) :=
    fun d hd r hr => List.mem_flatMap.mpr ⟨d, hd, hr⟩
  have references : ∀ d ∈ types, ∀ {own : Dict TypeDefinition}, Sound types own →
      ((∃ table', d.markedReferences.foldlM (addReference types) own = .ok table') ↔
        ∀ reference ∈ d.markedReferences, Enumerable types reference) := fun d hd _ sound =>
    Except.exists_foldlM_eq_ok_iff (Sound types)
      (fun _ _ _ _ sound => sound.addReference)
      (fun _ r hr sound => exists_addReference_iff (sound r (stand d hd r hr))) sound
  have start : Sound types [] := fun _ _ => Or.inl rfl
  refine Except.exists_foldlM_eq_ok_iff (Sound types) ?_ ?_ start
  · intro table d table' hd sound added
    rw [addAll, Except.bind_eq_ok_iff] at added
    obtain ⟨own, first, added⟩ := added
    exact Except.foldlM_induction (Sound types) (fun _ _ _ _ sound => sound.addReference)
      (sound.addOwn (apart d hd) first) added
  · intro table d hd sound
    simp only [addAll, Except.bind_eq_ok_iff]
    constructor
    · rintro ⟨table', own, first, added⟩
      exact ⟨exists_addOwn_iff.mp ⟨own, first⟩,
        (references d hd (sound.addOwn (apart d hd) first)).mp ⟨table', added⟩⟩
    · rintro ⟨taken, listed⟩
      obtain ⟨own, first⟩ := exists_addOwn_iff.mpr taken
      obtain ⟨table', added⟩ := (references d hd (sound.addOwn (apart d hd) first)).mpr listed
      exact ⟨table', own, first, added⟩

theorem taken_of_ofTypes (derived : ofTypes types = .ok table) {d : TypeDefinition}
    (hd : d ∈ types) : ∃ taken, items? types d = .ok taken := by
  obtain ⟨before, after, -, added⟩ :=
    Except.exists_step_of_foldlM (fun _ => True) (fun _ _ _ _ _ _ => trivial) trivial derived hd
  rw [addAll, Except.bind_eq_ok_iff] at added
  obtain ⟨own, first, -⟩ := added
  obtain ⟨taken, found, -⟩ := exists_addOwn_iff.mp ⟨own, first⟩
  exact ⟨taken, found⟩

theorem enumerable_of_ofTypes (distinct : (types.map (·.name)).Nodup)
    (derived : ofTypes types = .ok table) {reference : String}
    (free : (declared? types reference).bind (own? types) = none)
    (stands : reference ∈ types.flatMap (·.markedReferences)) : Enumerable types reference := by
  have apart : ∀ d ∈ types, d.name = reference → own? types d = none := by
    rintro d hd rfl
    rwa [declared?_of_mem distinct hd] at free
  obtain ⟨d, hd, listed⟩ := List.mem_flatMap.mp stands
  obtain ⟨table, after, guarded, added⟩ := Except.exists_step_of_foldlM
    (Guarded types reference) (fun _ d _ hd known added => known.addAll (apart d hd) added)
    (Or.inl rfl) derived hd
  rw [addAll, Except.bind_eq_ok_iff] at added
  obtain ⟨own, first, added⟩ := added
  obtain ⟨table, after, guarded, added⟩ := Except.exists_step_of_foldlM
    (Guarded types reference) (fun _ _ _ _ known added => known.addReference added)
    (guarded.addOwn (apart d hd) first) added listed
  exact guarded.enumerable added

end Extensions

namespace Schema

def Resolvable (types : List TypeDefinition) (reference : String) : Prop :=
  (declared? types (splitMarker reference).2).isSome ∨ (builtin? reference).isSome

section Resolved

variable {types : List TypeDefinition} {table : Dict TypeDefinition}

/-- References that stand in definitions denote something if they, or the names behind their
markers, are declared, or else if they are base types. -/
theorem resolve?_isSome_iff_or (distinct : (types.map (·.name)).Nodup)
    (derived : Extensions.ofTypes types = .ok table) {reference : String}
    (stands : reference ∈ types.flatMap (·.lookedUp)) :
    (resolve? types table reference).isSome ↔ (declared? types reference).isSome ∨
      (declared? types (splitMarker reference).2).isSome ∨ (builtin? reference).isSome := by
  cases marked : (splitMarker reference).1 with
  | false =>
    rw [splitMarker_of_unmarked marked, resolve?_of_unmarked distinct derived marked]
    cases declared? types reference with
    | none => simp
    | some d => cases Extensions.own? types d <;> simp
  | true =>
    obtain ⟨d, hd, looked⟩ := List.mem_flatMap.mp stands
    have listed : reference ∈ types.flatMap (·.markedReferences) := List.mem_flatMap.mpr
      ⟨d, hd, TypeDefinition.mem_markedReferences_iff.mpr ⟨looked, marked⟩⟩
    cases declared : declared? types reference with
    | some e => simp [resolve?, declared]
    | none =>
      have enumerable := Extensions.enumerable_of_ofTypes distinct derived
        (by rw [declared]; rfl) listed
      rw [resolve?_of_undeclared distinct derived declared marked, if_pos listed,
        builtin?_of_marked marked, Extensions.derived?]
      cases source : declared? types (splitMarker reference).2 with
      | none => simp
      | some t =>
        obtain ⟨e, enumerated⟩ := enumerable t source
        simp [enumerated, Except.toOption_ok]

theorem resolve?_isSome_iff (unmarked : ∀ d ∈ types, Unmarked d.name)
    (distinct : (types.map (·.name)).Nodup) (derived : Extensions.ofTypes types = .ok table)
    {reference : String} (stands : reference ∈ types.flatMap (·.lookedUp)) :
    (resolve? types table reference).isSome ↔ Resolvable types reference := by
  rw [resolve?_isSome_iff_or distinct derived stands, Resolvable]
  refine or_iff_right_of_imp fun named => Or.inl ?_
  obtain ⟨d, hd, rfl⟩ := List.mem_map.mp (declared?_isSome_iff.mp named)
  rw [splitMarker_of_unmarked (unmarked d hd)]
  exact named

/-- What a reference denotes has no pattern that does not stand in a definition. -/
theorem exists_pattern_of_resolve? (derived : Extensions.ofTypes types = .ok table)
    {reference : String} {base : TypeDefinition}
    (found : resolve? types table reference = some base) {source : String}
    (pattern : base.options.pattern = some source) :
    ∃ d ∈ types, d.options.pattern = some source := by
  refine resolve?_induction derived (P := fun e => e.options.pattern = some source →
    ∃ d ∈ types, d.options.pattern = some source) ?_ (fun d hd pattern => ⟨d, hd, pattern⟩)
    (fun _ => nofun) found pattern
  intro key e derives pattern
  cases derives with
  | own declared _ => exact ⟨_, declared, pattern⟩
  | listed declared _ enumerated =>
    rcases (TypeDefinition.toEnumeration_eq_ok enumerated).2 with rfl | ⟨-, options⟩
    · exact ⟨_, declared, pattern⟩
    · rw [options] at pattern
      cases pattern

theorem hasTypeOptions_of_pattern {o : Options} {source : String}
    (pattern : o.pattern = some source) : o.hasTypeOptions = true := by
  by_contra none
  have empty : (o.typeOptions == Options.empty) = true := by
    simpa [Options.hasTypeOptions, Options.isEmpty] using none
  have same := congrArg Options.pattern (Options.eq_of_beq empty).1
  simp [Options.empty, Options.typeOptions, pattern] at same

theorem pattern_refined (d : TypeDefinition) (name : String) (o : Options) :
    (d.refined name o.typeOptions).options.pattern = o.pattern.or d.options.pattern := by
  simp only [TypeDefinition.refined, Options.merge, Options.typeOptions, Option.orElse_eq_orElse,
    Option.orElse_eq_or]

theorem compile_refinedFieldTypes_iff (derived : Extensions.ofTypes types = .ok table)
    (compile : ∀ d ∈ types, d.options.PatternCompiles) :
    (∀ t ∈ (refinedFieldTypes types table).map Prod.snd, t.options.PatternCompiles) ↔
      ∀ d ∈ types, ∀ f ∈ d.fields, (resolve? types table f.typeRef).isSome →
        f.options.PatternCompiles := by
  constructor
  · intro refined d hd f hf resolved source pattern
    obtain ⟨base, found⟩ := Option.isSome_iff_exists.mp resolved
    refine refined _ (List.mem_map_of_mem (mem_refinedFieldTypes_iff.mpr
      ⟨d, hd, f, hf, hasTypeOptions_of_pattern pattern, base, found, rfl⟩)) source ?_
    rw [pattern_refined, pattern, Option.some_or]
  · intro fields t ht source pattern
    obtain ⟨entry, member, rfl⟩ := List.mem_map.mp ht
    obtain ⟨d, hd, f, hf, -, base, found, rfl⟩ := mem_refinedFieldTypes_iff.mp member
    rw [pattern_refined, Option.or_eq_some_iff] at pattern
    rcases pattern with own | ⟨-, inherited⟩
    · exact fields d hd f hf (by simp [found]) source own
    · obtain ⟨e, he, stands⟩ := exists_pattern_of_resolve? derived found inherited
      exact compile e he source stands

end Resolved

/-- What building a schema checks. -/
structure Buildable (info : Info) (types : List TypeDefinition) (limits : Limits) : Prop where
  count : types.length ≤ limits.maxTypes
  distinct : (types.map (·.name)).Nodup
  exported : ∀ name ∈ info.exports, (declared? types name).isSome
  derivable : ∀ d ∈ types, Extensions.Derivable types d
  patterns : ∀ d ∈ types, d.options.PatternCompiles
  fieldPatterns : ∀ d ∈ types, ∀ f ∈ d.fields, Resolvable types f.typeRef →
    f.options.PatternCompiles

/-- A schema builds if it is found to be in order. -/
theorem exists_build_iff {info : Info} {types : List TypeDefinition} {limits : Limits}
    (unmarked : ∀ d ∈ types, Unmarked d.name) (order : HashOrder) :
    (∃ s, build info types limits order = .ok s) ↔ Buildable info types limits := by
  have stands : ∀ d ∈ types, ∀ f ∈ d.fields, f.typeRef ∈ types.flatMap (·.lookedUp) :=
    fun d hd f hf => List.mem_flatMap.mpr
      ⟨d, hd, TypeDefinition.mem_lookedUp_of_field hf (Or.inl rfl)⟩
  constructor
  · rintro ⟨s, built⟩
    have t := tables_of_build built
    have all := exists_compiledPatterns_iff.mp ⟨_, t.patterns⟩
    have patterns : ∀ d ∈ types, d.options.PatternCompiles :=
      fun d hd => all d (List.mem_append_left _ hd)
    have derivable := (Extensions.exists_ofTypes_iff (.of_unmarked unmarked)).mp ⟨_, t.extensions⟩
    refine { count := t.count, distinct := t.distinct, exported := t.exported,
             derivable, patterns, fieldPatterns := fun d hd f hf resolvable => ?_ }
    refine (compile_refinedFieldTypes_iff t.extensions patterns).mp (fun e he => ?_) d hd f hf ?_
    · exact all e (List.mem_append_right _ (t.fieldTypes ▸ he))
    · exact (resolve?_isSome_iff unmarked t.distinct t.extensions (stands d hd f hf)).mpr resolvable
  · intro b
    obtain ⟨table, derived⟩ :=
      (Extensions.exists_ofTypes_iff (.of_unmarked unmarked)).mpr b.derivable
    have refined := (compile_refinedFieldTypes_iff derived b.patterns).mpr
      fun d hd f hf resolved => b.fieldPatterns d hd f hf
        ((resolve?_isSome_iff unmarked b.distinct derived (stands d hd f hf)).mp resolved)
    obtain ⟨patterns, compiled⟩ := exists_compiledPatterns_iff.mpr
      (List.forall_mem_append.mpr ⟨b.patterns, refined⟩)
    exact ⟨{ info, types, limits, extensions := table,
             fieldTypes := refinedFieldTypes types table, patterns },
      build_of_tables ⟨rfl, rfl, rfl, b.count, b.distinct, b.exported, derived, rfl, compiled⟩⟩

end Schema

end Jadn
