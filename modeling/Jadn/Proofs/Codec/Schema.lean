import Jadn.Proofs.Codec.Info
import Jadn.Proofs.Codec.Reader
import Jadn.Proofs.Codec.Transformation

/-!
Schemas read back from the documents that they are written as.

A schema is read back if its definitions and what it says about itself can be written. This
holds of every schema that is read from a document, and transformations keep it, unless there is
a type without a name: a reference to it would be written as an option without its value.
-/

set_option autoImplicit false

namespace Jadn.Schema

open Import

/-- Schemas read from documents, in which no object holds two members of one name, and what
transformations make of them. -/
inductive Obtained : Schema → Prop where
  | read {value : Json} {order : HashOrder} {s : Schema} (distinct : value.Distinct)
      (h : ofJson value order = .ok s) : Obtained s
  | truncated {s t : Schema} {width : Nat} {order : HashOrder} (obtained : Obtained s)
      (h : s.truncateDescriptions width order = .ok t) : Obtained t
  | unfolded {s u : Schema} {order : HashOrder} (obtained : Obtained s)
      (h : s.unfold order = .ok u) :
      Obtained u
  | imported {base r : Schema} {packages : List Package} {order : HashOrder}
      (obtained : Obtained base) (others : ∀ p ∈ packages, Obtained p.schema)
      (h : base.importPackages packages order = .ok r) : Obtained r

/-- A schema that can be written if each of its types has a name. -/
structure Storable (s : Schema) : Prop where
  tables : Tables s.info s.types {} s
  info : s.info.Writable
  types : Recordable s.types

section Writing

variable {s : Schema}

/-- Of what a schema says about itself only the exports have a part in building it. -/
theorem Tables.congr {info info' : Info} {types : List TypeDefinition} {limits : Limits}
    (t : Tables info types limits s) (exports : info'.exports = info.exports) :
    Tables info' types limits { s with info := info' } :=
  { t with info_eq := rfl, exported := exports ▸ t.exported }

theorem typesOfJson_toJson {types : List TypeDefinition} (h : ∀ d ∈ types, d.Writable)
    (index : Nat) : typesOfJson index (types.map TypeDefinition.toJson) = .ok types := by
  induction types generalizing index with
  | nil => rfl
  | cons d types ih =>
    have own := TypeDefinition.ofJson_toJson (h d List.mem_cons_self)
    have rest := ih (fun e he => h e (List.mem_cons_of_mem _ he)) (index + 1)
    rw [List.map_cons, typesOfJson, own, rest]
    rfl

/-- What is said is read back, also if it is not written. -/
theorem infoOfJson_write {info : Info} (h : info.Writable) (types : Json) :
    infoOfJson (Json.Members.write "info" Info.toJson (Info.present? Info.isEmpty info) ++
      [("types", types)]) = .ok info.readBack := by
  unfold infoOfJson Info.present?
  cases empty : info.isEmpty with
  | true =>
    rw [Info.readBack_of_isEmpty empty]
    rfl
  | false =>
    simp [Json.Members.write, Info.ofJson?_toJson h]

theorem lookup_types {info : Info} {types : Json} :
    (Json.Members.write "info" Info.toJson (Info.present? Info.isEmpty info) ++
      [("types", types)]).lookup "types" = some types := by
  unfold Info.present?
  cases info.isEmpty <;> rfl

theorem Storable.ofJson_toJson (h : s.Storable) (named : "" ∉ s.typeNames) (order : HashOrder) :
    ofJson s.toJson order = .ok { s with info := s.info.readBack } := by
  have types := typesOfJson_toJson (h.types.writable named) 0
  have parts : partsOfJson s.toJson = .ok (s.info.readBack, s.types) := by
    simp only [partsOfJson, toJson, Json.obj?, infoOfJson_write h.info, lookup_types,
      Option.bind_some, Json.arr?, types]
    rfl
  have exports : s.info.readBack.exports = s.info.exports := rfl
  rw [ofJson, parts]
  exact build_of_tables (h.tables.congr exports)

end Writing

section Keeping

variable {s t : Schema} {order : HashOrder}

theorem Storable.of_tables {info : Info} {types : List TypeDefinition} (writable : info.Writable)
    (recordable : Recordable types) (t : Tables info types {} s) : s.Storable := by
  refine ⟨?_, t.info_eq ▸ writable, t.types_eq ▸ recordable⟩
  rw [t.info_eq, t.types_eq]
  exact t

theorem writable_of_infoOfJson {members : Dict Json} {info : Info}
    (distinct : Json.Distinct (.obj members)) (h : infoOfJson members = .ok info) :
    info.Writable := by
  unfold infoOfJson at h
  split at h
  · cases h
    exact Info.writable_empty
  · next value found =>
    split at h
    · next own read =>
      cases h
      have inner := Json.Members.distinct_of_mem distinct (mem_of_lookup found)
      exact Info.writable_of_ofJson? inner read
    · cases h

theorem storable_of_ofJson {value : Json} (distinct : value.Distinct)
    (h : ofJson value order = .ok s) : s.Storable := by
  obtain ⟨members, info, entries, types, rfl, said, read, built⟩ := ofJson_eq_ok h
  have listed : ∀ d ∈ types, d.Regular ∧ "" ∉ d.given := by
    intro d hd
    obtain ⟨entry, -, own⟩ := exists_of_mem_typesOfJson read hd
    exact TypeDefinition.writable_iff.mp (TypeDefinition.ofJson_writable own)
  exact .of_tables (writable_of_infoOfJson distinct said)
    ⟨fun d hd => (listed d hd).1, fun _ d hd => (listed d hd).2⟩ (tables_of_build built)

theorem Storable.truncateDescriptions (h : s.Storable) {width : Nat}
    (truncated : s.truncateDescriptions width order = .ok t) : t.Storable := by
  unfold Schema.truncateDescriptions at truncated
  rw [h.tables.limits_eq] at truncated
  exact .of_tables h.info (h.types.mapDescriptions _) (tables_of_build truncated)

theorem Storable.unfold (h : s.Storable) (unfolded : s.unfold order = .ok t) : t.Storable := by
  have types := recordable_unfold h.tables.extensions h.types unfolded
  have tables := unfold_eq_ok unfolded
  rw [h.tables.limits_eq] at tables
  exact .of_tables h.info (tables.types_eq ▸ types) tables

theorem Storable.importPackages {packages : List Package} (h : s.Storable)
    (others : ∀ p ∈ packages, p.schema.Storable)
    (imported : s.importPackages packages order = .ok t) :
    t.Storable := by
  obtain ⟨types, st, followed, tables⟩ := importPackages_eq_ok imported
  have naming : Names (sources s packages) fun _ => True := ⟨by simp, by simp⟩
  have result := resulted_of_run naming followed tables
  have types := result.recordable naming followed h.types fun key d declared => by
    obtain ⟨p, hp, hd, -⟩ := mem_of_definition? declared
    exact (others p hp).types.regular d hd
  have info : Info.Writable { s.info with namespaces := s.info.namespaces.clear } :=
    ⟨List.nodup_nil, h.info.config, h.info.extra⟩
  rw [h.tables.limits_eq] at tables
  exact .of_tables info (tables.types_eq ▸ types) tables

theorem Obtained.storable (h : s.Obtained) : s.Storable := by
  induction h with
  | read distinct h => exact storable_of_ofJson distinct h
  | truncated _ h ih => exact ih.truncateDescriptions h
  | unfolded _ h ih => exact ih.unfold h
  | imported _ _ h ih others => exact ih.importPackages others h

end Keeping

section Equality

variable {s : Schema}

theorem toJson_readBack (info : Info) : toJson { s with info := info.readBack } =
    toJson { s with info } := by
  have same : (Info.present? Info.isEmpty info.readBack).map Info.toJson =
      (Info.present? Info.isEmpty info).map Info.toJson := by
    simp only [Info.present?, Info.isEmpty_readBack]
    split
    · rfl
    · simp [Info.toJson_readBack]
  have members : Json.Members.write "info" Info.toJson (Info.present? Info.isEmpty info.readBack) =
      Json.Members.write "info" Info.toJson (Info.present? Info.isEmpty info) := by
    have write : ∀ value : Option Info, Json.Members.write "info" Info.toJson value =
        ((value.map Info.toJson).map fun v => ("info", v)).toList := by
      intro value
      cases value <;> rfl
    rw [write, write, same]
  simp only [toJson, members]

/-- What is said may be read back in another form, but it is the same. -/
theorem Storable.readBack_same (h : s.Storable) :
    (({ s with info := s.info.readBack } : Schema) == s) = true := by
  have types : (s.types.all fun d => declared? s.types d.name == some d) = true := by
    rw [List.all_eq_true]
    intro d hd
    rw [declared?_of_mem h.tables.distinct hd]
    exact BEq.refl (some d)
  change same _ s = true
  simp only [same, Info.readBack_same h.info, beq_self_eq_true, types, Bool.and_self]

end Equality

theorem Obtained.ofText {text : String} {order : HashOrder} {s : Schema}
    (h : Schema.ofText text order = .ok s) : s.Obtained := by
  unfold Schema.ofText at h
  split at h
  · next value read => exact .read (Json.distinct_of_read? read) h
  · cases h

/-- A schema that is obtained from documents is read back from what it is written as, with the
same types in the same order, if all of them have names. It is equal to the one that was written,
and it is written in the same way. -/
theorem ofJson_toJson_of_obtained {s : Schema} (obtained : s.Obtained)
    (named : ∀ d ∈ s.types, d.name ≠ "") :
    ∃ t, (∀ order, ofJson s.toJson order = .ok t) ∧ (t == s) = true ∧ t.types = s.types ∧
      t.toJson = s.toJson := by
  have storable := obtained.storable
  have unnamed : "" ∉ s.typeNames := by
    intro member
    obtain ⟨d, hd, name⟩ := List.mem_map.mp member
    exact named d hd name
  exact ⟨_, storable.ofJson_toJson unnamed, storable.readBack_same, rfl, toJson_readBack s.info⟩

def catalog : String :=
  "\x7b\"types\": [[\"Root\", \"Record\", [\"X\"], \"All entries\",
      [[1, \"names\", \"List\", [\"[0\"], \"\"], [2, \"mark\", \"lib:Mark\", [\"?\"]]]],
    [\"List\", \"ArrayOf\", [\"*#Root\"], \"\"]],
  \"info\": \x7b\"note\": null, \"package\": \"catalog\", \"namespaces\": [[\"lib\", \"library\"]],
    \"config\": \x7b\"level\": 1, \"$MaxString\": 80\x7d\x7d\x7d"

def library : String := "\x7b\"types\": [[\"Mark\", \"Number\", [\"y0.5\"], \"A weight\"]]\x7d"

set_option maxRecDepth 4000 in
/-- A schema whose enumeration was written out, whose reference to a package was followed and
whose descriptions were shortened is read back. -/
theorem ofJson_toJson_catalog :
    ∃ s, s.Obtained ∧ s.typeNames = ["Root", "List", "Enum-Root", "Mark"] ∧
      (∀ d ∈ s.types, d.name ≠ "") ∧ ∃ t, (∀ order, ofJson s.toJson order = .ok t) ∧
        (t == s) = true ∧ t.types = s.types ∧ t.toJson = s.toJson := by
  -- The characters of a literal are not computed from its bytes.
  have text : catalog.toList = _ := String.toList_ofList
  have succeeds : ((ofText catalog .entered).toOption.bind fun base =>
      (base.unfold .entered).toOption.bind fun unfolded =>
        (ofText library .entered).toOption.bind fun package =>
          (unfolded.importPackages [⟨"library", package⟩] .entered).toOption.bind fun result =>
            (result.truncateDescriptions 5 .entered).toOption.map typeNames) =
      some ["Root", "List", "Enum-Root", "Mark"] := by
    rw [ofText, Json.read?, text]
    decide +kernel
  simp only [Option.bind_eq_some_iff, Option.map_eq_some_iff, Except.toOption_eq_some_iff] at succeeds
  obtain ⟨base, hbase, unfolded, hunfolded, package, hpackage, result, hresult, s, hs, names⟩ :=
    succeeds
  have others : ∀ p ∈ [Package.mk "library" package], p.schema.Obtained := by
    intro p hp
    rw [List.mem_singleton.mp hp]
    exact .ofText hpackage
  have obtained : s.Obtained :=
    .truncated (.imported (.unfolded (.ofText hbase) hunfolded) others hresult) hs
  have named : ∀ d ∈ s.types, d.name ≠ "" := by
    intro d hd unnamed
    have member : "" ∈ s.typeNames := List.mem_map.mpr ⟨d, hd, unnamed⟩
    rw [names] at member
    revert member
    decide
  exact ⟨s, obtained, names, named, ofJson_toJson_of_obtained obtained named⟩

end Jadn.Schema
