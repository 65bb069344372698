import Jadn.Proofs.Codec.Transformation
import Jadn.Proofs.Schema.Lookup

/-!
What holds of every schema, however it came about.

Members are checked when a definition is read or created, and never again: options are merged,
references replaced, descriptions shortened and enumerations written out without a look at them.
None of this touches the ids and names of members, and whatever else a schema holds is checked or
computed each time one is built.
-/

set_option autoImplicit false

namespace Jadn

section Members

variable {d e : TypeDefinition} {g : String → String}

inductive TypeDefinition.Accepted : TypeDefinition → Prop where
  | read {value : Json} {d : TypeDefinition} (h : ofJson value = .ok d) : Accepted d
  | created {name description : String} {kind : Kind} {options : Options} {d : TypeDefinition}
      (h : create name kind options description = .ok d) : Accepted d

theorem TypeDefinition.accepted_of_wellFormed (h : d.WellFormed) : d.Accepted :=
  .created (create_eq_ok_iff.mpr ⟨rfl, h⟩)

namespace TypeDefinition.WellFormed

theorem of_accepted (h : d.Accepted) : d.WellFormed := by
  cases h with
  | read h => exact ofJson_wellFormed h
  | created h => exact (create_eq_ok_iff.mp h).2

theorem mapDescriptions (h : d.WellFormed) (f : String → String) :
    (d.mapDescriptions f).WellFormed :=
  h.of_memberKeys_eq memberKeys_mapDescriptions

theorem replaced (h : d.WellFormed) : (d.replaced g).WellFormed :=
  h.of_memberKeys_eq memberKeys_replaced

theorem mapMarkedReferences (h : d.WellFormed) :
    (d.mapMarkedReferences (m := Id) g).WellFormed :=
  h.of_memberKeys_eq memberKeys_mapMarkedReferences

theorem renamed (h : d.WellFormed) (name : String) : (d.renamed name).WellFormed :=
  h.of_memberKeys_eq rfl

end TypeDefinition.WellFormed

theorem Import.Sources.IsCopy.wellFormed {src : Import.Sources} {key : String × String}
    (copy : src.IsCopy key e) (formed : ∀ d, src.definition? key = some d → d.WellFormed) :
    e.WellFormed := by
  obtain ⟨d, g, declared, -, same, -⟩ := copy
  rw [same]
  exact (formed d declared).replaced.renamed e.name

end Members

section Keys

variable {types : List TypeDefinition} {table : Dict TypeDefinition}

theorem Extensions.keys_nodup (h : ofTypes types = .ok table) : table.keys.Nodup := by
  have start : (Dict.keys ([] : Dict TypeDefinition)).Nodup := List.nodup_nil
  refine Except.foldlM_induction (fun t : Dict TypeDefinition => t.keys.Nodup) ?_ start h
  intro t d t' hd distinct added
  rw [addAll, Except.bind_eq_ok_iff] at added
  obtain ⟨own, addedOwn, added⟩ := added
  have ownDistinct : own.keys.Nodup := by
    rw [addOwn, Except.bind_eq_ok_iff] at addedOwn
    obtain ⟨items, -, addedOwn⟩ := addedOwn
    split at addedOwn
    · obtain ⟨e, -, same⟩ := Except.bind_eq_ok_iff.mp addedOwn
      cases same
      exact Dict.keys_insert_nodup distinct d.name e
    · cases addedOwn
      exact distinct
  refine Except.foldlM_induction (fun t : Dict TypeDefinition => t.keys.Nodup) ?_ ownDistinct added
  intro t reference t' _ distinct added
  unfold addReference at added
  split at added
  · cases added
    exact distinct
  · split at added
    · obtain ⟨e, -, same⟩ := Except.bind_eq_ok_iff.mp added
      cases same
      exact Dict.keys_insert_nodup distinct reference e
    · cases added
      exact distinct

theorem Schema.nodup_refinedFieldTypes (distinct : (types.map (·.name)).Nodup)
    (formed : ∀ d ∈ types, d.WellFormed) :
    ((refinedFieldTypes types table).map Prod.fst).Nodup := by
  have key : ∀ {d : TypeDefinition} {f : Field} {k : String × String},
      ((if f.options.hasTypeOptions then (resolve? types table f.typeRef).map fun base =>
        ((d.name, f.name), base.refined base.name f.options.typeOptions) else none).map
          Prod.fst) = some k → k = (d.name, f.name) := by
    intro d f k h
    obtain ⟨entry, refines, rfl⟩ := Option.map_eq_some_iff.mp h
    obtain ⟨-, merged⟩ := Option.ite_none_right_eq_some.mp refines
    obtain ⟨base, -, rfl⟩ := Option.map_eq_some_iff.mp merged
    rfl
  simp only [refinedFieldTypes, List.map_flatMap, List.map_filterMap]
  refine List.nodup_flatMap.mpr ⟨fun d hd => ?_, ?_⟩
  · refine (List.pairwise_map.mp (formed d hd).fieldNames).filterMap _ ?_
    rintro f g apart k hf k' hg rfl
    exact apart (Prod.mk.inj ((key hf).symm.trans (key hg))).2
  · refine (List.pairwise_map.mp distinct).imp fun {d e} apart k hk hk' => ?_
    obtain ⟨f, -, hf⟩ := List.mem_filterMap.mp hk
    obtain ⟨g, -, hg⟩ := List.mem_filterMap.mp hk'
    exact apart (Prod.mk.inj ((key hf).symm.trans (key hg))).1

end Keys

namespace Schema

open Import

variable {s t u : Schema} {order : HashOrder}

/-- The representation invariant of schemas. -/
structure Coherent (s : Schema) : Prop where
  /-- A name stands for at most one definition, and this one goes by it. -/
  keyed : ∀ name d, s.get? name = some d ↔ d ∈ s.types ∧ d.name = name
  distinct : s.typeNames.Nodup
  types : ∀ d ∈ s.types, d.WellFormed
  extensions : ∀ key e, (key, e) ∈ s.extensions → e.WellFormed
  fieldTypes : ∀ key e, (key, e) ∈ s.fieldTypes → e.WellFormed
  /-- No key occurs twice in the tables either. -/
  extensionKeys : s.extensions.keys.Nodup
  fieldKeys : (s.fieldTypes.map Prod.fst).Nodup
  exported : ∀ name ∈ s.info.exports, ∃ d, s.get? name = some d
  count : s.types.length ≤ s.limits.maxTypes

theorem Built.of_tables {info : Info} {types : List TypeDefinition} {limits : Limits}
    (formed : ∀ d ∈ types, d.WellFormed) (tables : Tables info types limits s) : s.Built :=
  have built : build info types limits .entered = .ok s := build_of_tables tables
  .of_build formed built

theorem Built.coherent (built : s.Built) : s.Coherent where
  keyed := by
    intro name d
    refine ⟨mem_of_declared?, ?_⟩
    rintro ⟨hd, rfl⟩
    exact declared?_of_mem built.tables.distinct hd
  distinct := built.tables.distinct
  types := built.wellFormed
  extensions := by
    intro key e entry
    have found := lookup_of_mem (Extensions.keys_nodup built.tables.extensions) entry
    exact (Extensions.derives_ofTypes built.tables.extensions key e found).wellFormed
      built.wellFormed
  fieldTypes := by
    intro key e entry
    obtain ⟨d, hd, f, hf, -, base, found, same⟩ := built.tables.mem_fieldTypes_iff.mp entry
    rw [(Prod.mk.inj same).2]
    exact (built.lookup?_wellFormed found).refined _ _
  extensionKeys := Extensions.keys_nodup built.tables.extensions
  fieldKeys := by
    rw [built.tables.fieldTypes]
    exact nodup_refinedFieldTypes built.tables.distinct built.wellFormed
  exported := fun name listed => Option.isSome_iff_exists.mp (built.tables.exported name listed)
  count := built.tables.count

section Transforming

theorem Built.truncateDescriptions (built : s.Built) {width : Nat}
    (h : s.truncateDescriptions width order = .ok t) : t.Built := by
  refine .of_build (fun e he => ?_) h
  obtain ⟨d, hd, rfl⟩ := List.mem_map.mp he
  exact (built.wellFormed d hd).mapDescriptions _

theorem Built.wellFormed_withItems (built : s.Built) {d : TypeDefinition} (hd : d ∈ s.types) :
    (s.withItems d).WellFormed := by
  rcases derives_withItems built.tables.extensions with same | ⟨e, own, same⟩
  · exact same ▸ built.wellFormed d hd
  · rw [same]
    exact (own.wellFormed built.wellFormed).of_memberKeys_eq rfl

theorem Built.unfold (built : s.Built) (h : s.unfold order = .ok u) : u.Built := by
  refine .of_tables (fun e he => ?_) (unfold_eq_ok h)
  rcases List.mem_append.mp he with own | added
  · obtain ⟨d, hd, rfl⟩ := List.mem_map.mp own
    exact (built.wellFormed_withItems hd).mapMarkedReferences
  · obtain ⟨⟨n, _⟩, entry, rfl⟩ := List.mem_map.mp added
    obtain ⟨-, -, x, found⟩ := addedFrom_addedTypes n _ entry
    exact (Extensions.derives_ofTypes built.tables.extensions _ _ found).wellFormed built.wellFormed

theorem Built.importPackages {packages : List Package} (built : s.Built)
    (others : ∀ p ∈ packages, p.schema.Built) (h : s.importPackages packages order = .ok t) :
    t.Built := by
  obtain ⟨types, st, followed, tables⟩ := importPackages_eq_ok h
  have naming : Names (sources s packages) fun _ => True := ⟨by simp, by simp⟩
  have result := resulted_of_run naming followed tables
  obtain ⟨found, copies, explored⟩ := baseTypes_explores naming followed
  have declared : ∀ key d, (sources s packages).definition? key = some d → d.WellFormed := by
    intro key d declared
    obtain ⟨p, hp, hd, -⟩ := mem_of_definition? declared
    exact (others p hp).wellFormed d hd
  refine .of_tables (fun e he => ?_) tables
  rw [← tables.types_eq, result.types_eq explored] at he
  rcases List.mem_append.mp he with own | copied
  · obtain ⟨d, hd, rfl⟩ := List.mem_map.mp own
    exact (built.wellFormed d hd).replaced
  · obtain ⟨c, hc, rfl⟩ := List.mem_map.mp copied
    exact (explored.copied c hc).1.wellFormed (declared c.1)

end Transforming

/-- Schemas that are read, or built of definitions that are read or created, and what
transformations make of them in any order. -/
inductive Produced : Schema → Prop where
  | read {value : Json} {order : HashOrder} {s : Schema} (h : ofJson value order = .ok s) :
      Produced s
  | new {info : Info} {types : List TypeDefinition} {order : HashOrder} {s : Schema}
      (accepted : ∀ d ∈ types, d.Accepted) (h : new info types order = .ok s) : Produced s
  | built {info : Info} {types : List TypeDefinition} {limits : Limits} {order : HashOrder}
      {s : Schema} (accepted : ∀ d ∈ types, d.Accepted)
      (h : build info types limits order = .ok s) :
      Produced s
  | truncated {s t : Schema} {width : Nat} {order : HashOrder} (produced : Produced s)
      (h : s.truncateDescriptions width order = .ok t) : Produced t
  | unfolded {s u : Schema} {order : HashOrder} (produced : Produced s)
      (h : s.unfold order = .ok u) :
      Produced u
  | imported {base r : Schema} {packages : List Package} {order : HashOrder}
      (produced : Produced base) (others : ∀ p ∈ packages, Produced p.schema)
      (h : base.importPackages packages order = .ok r) : Produced r

theorem Produced.isBuilt (h : s.Produced) : s.Built := by
  induction h with
  | read h => exact ofJson_built h
  | new accepted h | built accepted h => exact .of_build (fun d hd => .of_accepted (accepted d hd)) h
  | truncated _ h ih => exact ih.truncateDescriptions h
  | unfolded _ h ih => exact ih.unfold h
  | imported _ _ h ih others => exact ih.importPackages others h

/-- Every schema that is read or built keeps the representation invariant, and so does all that
transformations make of such schemas. -/
theorem coherent_of_produced (h : s.Produced) : s.Coherent := h.isBuilt.coherent

def shelf : List TypeDefinition :=
  [{ name := "Root"
     options := {}
     description := "All there is"
     kind := .record [⟨1, "names", "List", { minv := some 1 }, ""⟩, ⟨2, "mark", "lib:Mark", {}, ""⟩] },
   { name := "List", options := { vtype := some "#Root" }, description := "", kind := .arrayOf }]

def sticker : List TypeDefinition :=
  [{ name := "Mark", options := {}, description := "", kind := .choice [⟨7, "own", "Mark", {}, ""⟩] }]

/-- A schema with limits of its own whose enumeration was written out, whose reference to a package
was followed and whose descriptions were shortened. -/
theorem coherent_of_produced_shelf :
    ∃ s : Schema, s.Produced ∧ s.typeNames = ["Root", "List", "Enum-Root", "Mark"] ∧
      s.fieldTypes.map Prod.fst = [("Root", "names")] ∧ s.Coherent := by
  have succeeds : ((build { namespaces := { packages := [("lib", "library")] } } shelf
      { maxTypes := 4 } .entered).toOption.bind fun base =>
        (base.unfold .reversed).toOption.bind fun unfolded =>
          (Schema.new {} sticker .entered).toOption.bind fun package =>
            (unfolded.importPackages [⟨"library", package⟩] .reversed).toOption.bind fun result =>
              (result.truncateDescriptions 5 .entered).toOption.map fun s =>
                (s.typeNames, s.fieldTypes.map Prod.fst)) =
      some (["Root", "List", "Enum-Root", "Mark"], [("Root", "names")]) := by decide +kernel
  simp only [Option.bind_eq_some_iff, Option.map_eq_some_iff, Except.toOption_eq_some_iff,
    Prod.mk.injEq] at succeeds
  obtain ⟨base, hbase, unfolded, hunfolded, package, hpackage, result, hresult, s, hs, names,
    fields⟩ := succeeds
  have formed : ∀ d ∈ shelf ++ sticker, d.WellFormed := by decide
  have accepted : ∀ d ∈ shelf ++ sticker, d.Accepted := fun d hd =>
    TypeDefinition.accepted_of_wellFormed (formed d hd)
  have own : base.Produced :=
    .built (fun d hd => accepted d (List.mem_append_left _ hd)) hbase
  have others : ∀ p ∈ [Package.mk "library" package], p.schema.Produced := by
    intro p hp
    rw [List.mem_singleton.mp hp]
    exact .new (fun d hd => accepted d (List.mem_append_right _ hd)) hpackage
  have produced : s.Produced := .truncated (.imported (.unfolded own hunfolded) others hresult) hs
  exact ⟨s, produced, names, fields, coherent_of_produced produced⟩

end Schema

end Jadn
