import Jadn.Proofs.Schema.Patterns
import Jadn.Proofs.WellFormed
import Jadn.Schema.Document

/-!
Schemas as they come out of `Schema.build`.

Every definition that such a schema looks up, be it declared, derived, built in or refined by
the options of a field, has distinct members.
-/

set_option autoImplicit false

namespace Jadn

theorem mem_of_declared? {types : List TypeDefinition} {name : String} {d : TypeDefinition}
    (h : declared? types name = some d) : d ∈ types ∧ d.name = name := by
  have found : types.find? (fun e => e.name == name) = some d := h
  exact ⟨List.mem_of_find?_eq_some found, by simpa using List.find?_some found⟩

theorem declared?_isSome_iff {types : List TypeDefinition} {name : String} :
    (declared? types name).isSome ↔ name ∈ types.map (·.name) := by
  simp [declared?, List.find?_isSome]

theorem declared?_of_mem {types : List TypeDefinition}
    (distinct : (types.map (·.name)).Nodup) {d : TypeDefinition} (h : d ∈ types) :
    declared? types d.name = some d :=
  find?_key_eq_some distinct h

namespace Extensions

variable {types : List TypeDefinition}

/-- Derived enumerations under their keys: a definition with the items that it takes from
elsewhere under its own name, or the enumeration of the fields of one under a marked reference. -/
inductive Derives (types : List TypeDefinition) : String → TypeDefinition → Prop where
  | own {d : TypeDefinition} {items : List Item} (declared : d ∈ types)
      (formed : TypeDefinition.WellFormed { d with kind := .enumerated items }) :
      Derives types d.name { d with kind := .enumerated items }
  | listed {key : String} {d e : TypeDefinition} (declared : d ∈ types)
      (marked : (splitMarker key).1 = true) (derived : d.toEnumeration = .ok e) :
      Derives types key e

theorem Derives.wellFormed {key : String} {e : TypeDefinition}
    (formed : ∀ d ∈ types, d.WellFormed) (h : Derives types key e) : e.WellFormed := by
  cases h with
  | own _ own => exact own
  | listed declared _ derived => exact (formed _ declared).toEnumeration derived

theorem derives_addOwn {table table' : Dict TypeDefinition} {d : TypeDefinition} (hd : d ∈ types)
    (h : ∀ k e, table.lookup k = some e → Derives types k e)
    (added : addOwn types table d = .ok table') :
    ∀ k e, table'.lookup k = some e → Derives types k e := by
  rw [addOwn, Except.bind_eq_ok_iff] at added
  obtain ⟨items, -, added⟩ := added
  split at added
  · rw [Except.bind_eq_ok_iff] at added
    obtain ⟨e, created, added⟩ := added
    cases added
    obtain ⟨rfl, formed⟩ := TypeDefinition.create_eq_ok_iff.mp
      (Except.mapError_eq_ok_iff.mp created)
    exact Dict.forall_lookup_insert h (.own hd formed)
  · cases added
    exact h

theorem derives_addReference {table table' : Dict TypeDefinition} {reference : String}
    (marked : (splitMarker reference).1 = true)
    (h : ∀ k e, table.lookup k = some e → Derives types k e)
    (added : addReference types table reference = .ok table') :
    ∀ k e, table'.lookup k = some e → Derives types k e := by
  unfold addReference at added
  split at added
  · cases added
    exact h
  · split at added
    · next d declared =>
      rw [Except.bind_eq_ok_iff] at added
      obtain ⟨e, derived, added⟩ := added
      cases added
      exact Dict.forall_lookup_insert h (.listed (mem_of_declared? declared).1 marked derived)
    · cases added
      exact h

theorem derives_ofTypes {table : Dict TypeDefinition} (h : ofTypes types = .ok table) :
    ∀ k e, table.lookup k = some e → Derives types k e := by
  refine Except.foldlM_induction (fun t : Dict TypeDefinition =>
    ∀ k e, t.lookup k = some e → Derives types k e) ?_ (by simp) h
  intro t d t' hd ht added
  rw [addAll, Except.bind_eq_ok_iff] at added
  obtain ⟨own, hown, added⟩ := added
  refine Except.foldlM_induction (fun t : Dict TypeDefinition =>
    ∀ k e, t.lookup k = some e → Derives types k e) ?_ (derives_addOwn hd ht hown) added
  intro t r t' hr ht added
  exact derives_addReference (List.mem_filter.mp hr).2 ht added

end Extensions

/-- What holds of derived enumerations, of declared definitions and of base types holds of whatever
a reference stands for. -/
theorem resolve?_induction {types : List TypeDefinition} {table : Dict TypeDefinition}
    (derived : Extensions.ofTypes types = .ok table) {P : TypeDefinition → Prop}
    (enumeration : ∀ key e, Extensions.Derives types key e → P e) (declared : ∀ d ∈ types, P d)
    (plain : ∀ base : BaseType, P (.plain base base.name {})) {reference : String}
    {d : TypeDefinition} (found : resolve? types table reference = some d) : P d := by
  simp only [resolve?, Option.orElse_eq_orElse, Option.orElse_eq_or,
    Option.or_eq_some_iff] at found
  rcases found with listed | ⟨-, named | ⟨-, builtin⟩⟩
  · exact enumeration reference d (Extensions.derives_ofTypes derived _ _ listed)
  · exact declared d (mem_of_declared? named).1
  · obtain ⟨base, -, rfl⟩ := Option.map_eq_some_iff.mp builtin
    exact plain base

namespace Schema

theorem get?_eq_none_iff {s : Schema} {name : String} :
    s.get? name = none ↔ name ∉ s.typeNames := by
  rw [← Option.not_isSome_iff_eq_none]
  exact declared?_isSome_iff.not

theorem repeatedName?_eq_none_iff {seen : List String} {types : List TypeDefinition} :
    repeatedName? seen types = none ↔
      (types.map (·.name)).Nodup ∧ ∀ d ∈ types, d.name ∉ seen := by
  induction types generalizing seen with
  | nil => simp [repeatedName?]
  | cons d types ih =>
    by_cases h : d.name ∈ seen
    · simp [repeatedName?, h]
    · simp only [repeatedName?, h, if_false, ih, List.map_cons, List.nodup_cons, List.mem_cons]
      grind

/-- A schema whose definitions have distinct members and whose tables are those that
`Schema.build` computes. -/
structure Built (s : Schema) : Prop where
  wellFormed : ∀ d ∈ s.types, d.WellFormed
  rebuilt : ∃ order, build s.info s.types s.limits order = .ok s

/-- The tables of a schema that was built, and what was checked. -/
structure Tables (info : Info) (types : List TypeDefinition) (limits : Limits) (s : Schema) :
    Prop where
  info_eq : s.info = info
  types_eq : s.types = types
  limits_eq : s.limits = limits
  count : types.length ≤ limits.maxTypes
  distinct : (types.map (·.name)).Nodup
  exported : ∀ name ∈ info.exports, (declared? types name).isSome
  extensions : Extensions.ofTypes types = .ok s.extensions
  fieldTypes : s.fieldTypes = refinedFieldTypes types s.extensions
  patterns : compiledPatterns (types ++ s.fieldTypes.map Prod.snd) = .ok s.patterns

variable {info : Info} {types : List TypeDefinition} {limits : Limits} {order : HashOrder}
  {s : Schema}

theorem tables_of_build (h : build info types limits order = .ok s) :
    Tables info types limits s := by
  simp only [build, Except.bind_eq_ok_iff] at h
  obtain ⟨⟨⟩, count, ⟨⟩, distinct, ⟨⟩, exported, extensions, derived, patterns, compiled, h⟩ := h
  cases h
  rw [Except.mapError_eq_ok_iff, Limits.check_eq_ok_iff] at count
  refine ⟨rfl, rfl, rfl, count, ?_, ?_, derived, rfl, patternTable_eq_ok_iff.mp compiled⟩
  · unfold checkNamesDistinct at distinct
    split at distinct
    · cases distinct
    · next none => exact (repeatedName?_eq_none_iff.mp none).1
  · unfold checkExports at exported
    split at exported
    · cases exported
    · next none =>
      intro name hname
      have := List.find?_eq_none.mp none name hname
      simpa [Option.isSome_iff_ne_none] using this

/-- The checks that were made and the tables that were computed are all there is to building. -/
theorem build_of_tables (t : Tables info types limits s) :
    build info types limits order = .ok s := by
  obtain ⟨rfl, rfl, rfl, count, distinct, exported, derived, refined, compiled⟩ := t
  rw [refined] at compiled
  simp only [build, Except.bind_eq_ok_iff]
  refine ⟨⟨⟩, ?_, ⟨⟩, ?_, ⟨⟩, ?_, s.extensions, derived, s.patterns,
    patternTable_eq_ok_iff.mpr compiled, ?_⟩
  · rw [Except.mapError_eq_ok_iff, Limits.check_eq_ok_iff]
    exact count
  · have none : repeatedName? [] s.types = none :=
      repeatedName?_eq_none_iff.mpr ⟨distinct, by simp⟩
    rw [checkNamesDistinct, none]
  · have none : (s.info.exports.find? fun name => (declared? s.types name).isNone) = none := by
      rw [List.find?_eq_none]
      intro name hname
      simpa using Option.isSome_iff_ne_none.mp (exported name hname)
    rw [checkExports, none]
  · rw [← refined]
    rfl

/-- What is built in some order is built in every order. -/
theorem build_eq_ok_iff (order order' : HashOrder) :
    build info types limits order = .ok s ↔ build info types limits order' = .ok s :=
  ⟨fun h => build_of_tables (tables_of_build h), fun h => build_of_tables (tables_of_build h)⟩

theorem Built.of_build (formed : ∀ d ∈ types, d.WellFormed)
    (h : build info types limits order = .ok s) : s.Built := by
  have t := tables_of_build h
  refine ⟨t.types_eq ▸ formed, order, ?_⟩
  rw [t.info_eq, t.types_eq, t.limits_eq]
  exact h

theorem Built.tables (built : s.Built) : Tables s.info s.types s.limits s := by
  obtain ⟨order, rebuilt⟩ := built.rebuilt
  exact tables_of_build rebuilt

theorem exists_of_mem_typesOfJson {index : Nat} {entries : List Json}
    (h : typesOfJson index entries = .ok types) {d : TypeDefinition} (hd : d ∈ types) :
    ∃ entry ∈ entries, TypeDefinition.ofJson entry = .ok d := by
  induction entries generalizing index types with
  | nil =>
    cases h
    cases hd
  | cons entry entries ih =>
    simp only [typesOfJson, Except.bind_eq_ok_iff] at h
    obtain ⟨e, read, rest, others, h⟩ := h
    cases h
    rcases List.mem_cons.mp hd with rfl | later
    · exact ⟨entry, List.mem_cons_self, Except.mapError_eq_ok_iff.mp read⟩
    · obtain ⟨other, member, read⟩ := ih others later
      exact ⟨other, List.mem_cons_of_mem _ member, read⟩

theorem ofJson_eq_ok {value : Json} (h : ofJson value order = .ok s) :
    ∃ members info entries types, value = .obj members ∧ infoOfJson members = .ok info ∧
      typesOfJson 0 entries = .ok types ∧ build info types {} order = .ok s := by
  rw [ofJson, Except.bind_eq_ok_iff] at h
  obtain ⟨⟨info, types⟩, parts, h⟩ := h
  rw [Except.mapError_eq_ok_iff] at parts
  unfold partsOfJson at parts
  split at parts
  · next members document =>
    obtain ⟨own, said, parts⟩ := Except.bind_eq_ok_iff.mp parts
    split at parts
    · next entries listed =>
      obtain ⟨read, known, parts⟩ := Except.bind_eq_ok_iff.mp parts
      cases parts
      cases value with
      | obj _ =>
        cases document
        exact ⟨members, info, entries, types, rfl, said, known, h⟩
      | _ => cases document
    · cases parts
  · cases parts

theorem ofJson_built {value : Json} (h : ofJson value order = .ok s) : s.Built := by
  obtain ⟨members, info, entries, types, -, -, read, built⟩ := ofJson_eq_ok h
  refine Built.of_build (fun d hd => ?_) built
  obtain ⟨entry, -, own⟩ := exists_of_mem_typesOfJson read hd
  exact TypeDefinition.ofJson_wellFormed own

/-- A definition that some reference or some field of the schema leads to. -/
def Denotes (s : Schema) (d : TypeDefinition) : Prop :=
  (∃ reference, s.lookup? reference = some d) ∨ ∃ owner f, s.fieldType? owner f = some d

theorem denotes_of_bind {part : Option String} {d : TypeDefinition}
    (h : part.bind s.lookup? = some d) : s.Denotes d := by
  obtain ⟨reference, -, found⟩ := Option.bind_eq_some_iff.mp h
  exact Or.inl ⟨reference, found⟩

section Lookup

variable (built : s.Built)
include built

theorem Built.lookup?_wellFormed {reference : String} {d : TypeDefinition}
    (h : s.lookup? reference = some d) : d.WellFormed :=
  resolve?_induction built.tables.extensions (fun _ _ derives => derives.wellFormed built.wellFormed)
    built.wellFormed (fun _ => TypeDefinition.plain_wellFormed _ _ _) h

/-- What holds of all that references stand for, and of refinements of it, holds of the types of
fields too. -/
theorem Built.denotes_induction {P : TypeDefinition → Prop}
    (looked : ∀ reference d, s.lookup? reference = some d → P d)
    (refined : ∀ d name overlay, P d → P (d.refined name overlay)) {d : TypeDefinition}
    (denoted : s.Denotes d) : P d := by
  rcases denoted with ⟨reference, found⟩ | ⟨owner, f, found⟩
  · exact looked reference d found
  · simp only [fieldType?, Option.orElse_eq_orElse, Option.orElse_eq_or,
      Option.or_eq_some_iff] at found
    rcases found with entry | ⟨-, plain⟩
    · have member := mem_of_lookup entry
      rw [built.tables.fieldTypes, refinedFieldTypes] at member
      obtain ⟨o, -, member⟩ := List.mem_flatMap.mp member
      obtain ⟨g, -, member⟩ := List.mem_filterMap.mp member
      split at member
      · obtain ⟨base, found, same⟩ := Option.map_eq_some_iff.mp member
        obtain rfl := (Prod.mk.inj same).2
        exact refined base _ _ (looked g.typeRef base found)
      · cases member
    · exact looked f.typeRef d plain

theorem Built.wellFormed_of_denotes {d : TypeDefinition} (h : s.Denotes d) : d.WellFormed :=
  built.denotes_induction (fun _ _ => built.lookup?_wellFormed) (fun _ _ _ h => h.refined _ _) h

end Lookup

end Schema

end Jadn
