import Jadn.Proofs.Built
import Jadn.Proofs.Import.Run

/-!
What an import results in: the definitions of the base with local names for their qualified
references, followed by the definitions that were imported on the way.
-/

set_option autoImplicit false

namespace Jadn.Import

def Request.target? : Request → Option (String × String)
  | .definition package _ name => some (package, name)
  | .nothing | .unknown => none

def Sources.baseTarget? (src : Sources) (reference : String) : Option (String × String) :=
  (src.request reference).target?

theorem Sources.baseTarget?_eq_some_iff {src : Sources} {x package name : String} :
    src.baseTarget? x = some (package, name) ↔ ∃ label,
      Name.splitNamespace x = (some label, name) ∧
        src.base.info.namespaces.package? label = some package := by
  unfold Sources.baseTarget? Sources.request
  rcases Name.splitNamespace x with ⟨_ | label, name'⟩
  · simp [Request.target?]
  · cases known : src.base.info.namespaces.package? label <;>
      simp [Request.target?, known, and_comm]

def State.baseName (st : State) (src : Sources) (x : String) : String :=
  ((src.baseTarget? x).bind st.memo).getD x

/-- What a reference of the base leads to was met, unless it is unqualified. -/
def State.BaseLeads (st : State) (src : Sources) (x : String) : Prop :=
  ':' ∉ x.toList ∨ ∃ target, src.baseTarget? x = some target ∧ (st.memo target).isSome

theorem Sources.baseTarget?_of_not_mem (src : Sources) {x : String} (plain : ':' ∉ x.toList) :
    src.baseTarget? x = none := by
  simp [baseTarget?, request, splitNamespace_of_not_mem plain, Request.target?]

theorem State.baseName_of_not_mem (st : State) (src : Sources) {x : String}
    (plain : ':' ∉ x.toList) : st.baseName src x = x := by
  simp [baseName, src.baseTarget?_of_not_mem plain]

theorem State.baseName_of_memo {src : Sources} {st : State} {x name : String}
    {target : String × String} (leads : src.baseTarget? x = some target)
    (noted : st.memo target = some name) : st.baseName src x = name := by
  simp [State.baseName, leads, noted]

theorem State.BaseLeads.memo_eq {src : Sources} {st : State} {x : String}
    {target : String × String} (h : st.BaseLeads src x)
    (leads : src.baseTarget? x = some target) : st.memo target = some (st.baseName src x) := by
  rcases h with plain | ⟨other, leads', met⟩
  · rw [src.baseTarget?_of_not_mem plain] at leads
    cases leads
  · rw [leads] at leads'
    cases leads'
    obtain ⟨name, noted⟩ := Option.isSome_iff_exists.mp met
    rw [State.baseName_of_memo leads noted, noted]

theorem Grows.baseLeads {src : Sources} {st st' : State} (grows : Grows st st') {x : String}
    (h : st.BaseLeads src x) :
    st'.BaseLeads src x ∧ st'.baseName src x = st.baseName src x := by
  rcases h with plain | ⟨target, leads, met⟩
  · refine ⟨Or.inl plain, ?_⟩
    rw [st.baseName_of_not_mem src plain, st'.baseName_of_not_mem src plain]
  · have kept := grows.memo target _ (State.BaseLeads.memo_eq (.inr ⟨target, leads, met⟩) leads)
    exact ⟨Or.inr ⟨target, leads, Option.isSome_of_eq_some kept⟩,
      State.baseName_of_memo leads kept⟩

theorem baseTarget?_of_request {src : Sources} {x package label name : String}
    (request : src.request x = .definition package label name) :
    src.baseTarget? x = some (package, name) ∧ src.Label label package := by
  refine ⟨by rw [Sources.baseTarget?, request, Request.target?], ?_⟩
  unfold Sources.request at request
  split at request
  · next qualified =>
    split at request
    · next known =>
      cases request
      exact ⟨(splitNamespace_eq_some qualified).2, Or.inl known⟩
    · cases request
  · cases request

theorem unqualified_of_request {src : Sources} {x : String} (request : src.request x = .nothing) :
    ':' ∉ x.toList := by
  unfold Sources.request at request
  split at request
  · split at request <;> cases request
  · next plain => exact (splitNamespace_eq_none plain).2

theorem localName_base_eq_ok {src : Sources} {importer : Importer} {chain : List String}
    {x y : String} {st st' : State}
    (h : (Site.base.localName src importer chain x).run st = .ok (y, st')) :
    (':' ∉ x.toList ∧ y = x ∧ st' = st) ∨
      ∃ key label, src.baseTarget? x = some key ∧ src.Label label key.1 ∧
        (importer key.1 label key.2 (chain ++ [x])).run st = .ok (y, st') := by
  rw [Site.localName, Site.request] at h
  cases request : src.request x with
  | nothing =>
    rw [request] at h
    cases h
    exact Or.inl ⟨unqualified_of_request request, rfl, rfl⟩
  | unknown =>
    rw [request] at h
    cases h
  | definition package label name =>
    rw [request] at h
    obtain ⟨leads, labelled⟩ := baseTarget?_of_request request
    exact Or.inr ⟨(package, name), label, leads, labelled, h⟩

section Base

variable {src : Sources} {Good : String → Prop}

theorem localName_base_run (naming : Names src Good) {fuel : Nat} {chain : List String}
    {x y : String} {st st' : State} (sound : Sound src Good st)
    (h : (Site.base.localName src (importName src fuel) chain x).run st = .ok (y, st')) :
    Sound src Good st' ∧ (y = st'.baseName src x ∧ st'.BaseLeads src x) ∧
      Run src Good (fun target => src.baseTarget? x = some target) st st' := by
  rcases localName_base_eq_ok h with ⟨plain, rfl, rfl⟩ | ⟨key, label, leads, labelled, imported⟩
  · exact ⟨sound, ⟨(st'.baseName_of_not_mem src plain).symm, Or.inl plain⟩, Run.refl st'⟩
  · obtain ⟨sound', noted, run⟩ := importName_run naming fuel _ _ _ _ _ _ _ labelled sound imported
    refine ⟨sound', ⟨(State.baseName_of_memo leads noted).symm, ?_⟩, run.mono ?_⟩
    · exact Or.inr ⟨key, leads, Option.isSome_of_eq_some noted⟩
    · rintro target rfl
      exact leads

theorem sound_empty : Sound src Good {} := by
  constructor <;> simp [State.memo, Dict.keys]

theorem mapReferences_run (naming : Names src Good) {fuel : Nat} {chain : List String}
    {d e : TypeDefinition} {st st' : State} (sound : Sound src Good st)
    (h : (d.mapReferences (Site.base.localName src (importName src fuel) chain)).run st =
      .ok (e, st')) :
    Sound src Good st' ∧
      (e = d.replaced (st'.baseName src) ∧ ∀ x ∈ d.referredNames, st'.BaseLeads src x) ∧
      Run src Good (fun target => ∃ x ∈ d.referredNames, src.baseTarget? x = some target) st st' := by
  rw [d.mapReferences_eq, StateT.run_map, Except.map_eq_ok_iff] at h
  obtain ⟨⟨names, _⟩, followed, filled⟩ := h
  cases filled
  have stable : ∀ {s s' : State} {x y : String}, Grows s s' →
      y = s.baseName src x ∧ s.BaseLeads src x → y = s'.baseName src x ∧ s'.BaseLeads src x := by
    rintro s s' x y grows ⟨rfl, leads⟩
    obtain ⟨leads', same⟩ := grows.baseLeads leads
    exact ⟨same.symm, leads'⟩
  obtain ⟨sound', answers, run⟩ := mapM_run
    (P := fun s x y => y = s.baseName src x ∧ s.BaseLeads src x) stable
    (fun x _ => localName_base_run naming) sound followed
  obtain ⟨rfl, leads⟩ := eq_map_of_forall₂ answers
  exact ⟨sound', ⟨d.refilled_map _, leads⟩, run⟩

/-- The definitions of the base refer to local names afterwards. -/
theorem baseTypes_run (naming : Names src Good) {types : List TypeDefinition} {st' : State}
    (h : (baseTypes src).run {} = .ok (types, st')) :
    Sound src Good st' ∧ types = src.base.types.map (·.replaced (st'.baseName src)) ∧
      (∀ d ∈ src.base.types, ∀ x ∈ d.referredNames, st'.BaseLeads src x) ∧
      Run src Good (fun target => ∃ d ∈ src.base.types, ∃ x ∈ d.referredNames,
        src.baseTarget? x = some target) {} st' := by
  have stable : ∀ {s s' : State} {d e : TypeDefinition}, Grows s s' →
      e = d.replaced (s.baseName src) ∧ (∀ x ∈ d.referredNames, s.BaseLeads src x) →
        e = d.replaced (s'.baseName src) ∧ ∀ x ∈ d.referredNames, s'.BaseLeads src x := by
    rintro s s' d e grows ⟨rfl, leads⟩
    refine ⟨TypeDefinition.replaced_congr fun x hx => ?_, fun x hx => ?_⟩
    · exact (grows.baseLeads (leads x hx)).2.symm
    · exact (grows.baseLeads (leads x hx)).1
  obtain ⟨sound', answers, run⟩ := mapM_run
    (P := fun s d e => e = d.replaced (s.baseName src) ∧ ∀ x ∈ d.referredNames, s.BaseLeads src x)
    stable (fun d _ => mapReferences_run naming) sound_empty h
  obtain ⟨types, leads⟩ := eq_map_of_forall₂ answers
  exact ⟨sound', types, leads, run⟩

end Base

section Keeping

variable {src : Sources} {I : State → Prop}

def Keeps (src : Sources) (I : State → Prop) (importer : Importer) : Prop :=
  ∀ package label name chain st result st', src.Label label package → I st →
    (importer package label name chain).run st = .ok (result, st') → I st'

/-- What every step keeps is kept when they are done in turn. -/
theorem mapM_preserves {α β : Type} {f : α → Resolver β} {I : State → Prop} {xs : List α}
    {ys : List β} {st st' : State}
    (step : ∀ x ∈ xs, ∀ {s s' : State} {y : β}, I s → (f x).run s = .ok (y, s') → I s')
    (start : I st) (h : (xs.mapM f).run st = .ok (ys, st')) : I st' := by
  induction xs generalizing st ys with
  | nil =>
    cases h
    exact start
  | cons x xs ih =>
    obtain ⟨y, st₁, zs, first, others, rfl⟩ := run_mapM_cons_eq_ok_iff.mp h
    exact ih (fun z hz => step z (List.mem_cons_of_mem _ hz))
      (step x List.mem_cons_self start first) others

theorem followAll_keeps {I : State → Prop} {importer : Importer} (keeps : Keeps src I importer)
    {schema : Schema} {package label : String} {chain xs ys : List String} {st st' : State}
    (found : src.packages.lookup package = some schema) (labelled : src.Label label package)
    (start : I st)
    (h : (xs.mapM ((Site.within schema package label).localName src importer chain)).run st =
      .ok (ys, st')) :
    I st' := by
  refine mapM_preserves (fun x hx s s' y holds followed => ?_) start h
  rcases localName_within_eq_ok found labelled followed with ⟨-, -, rfl⟩ | ⟨key, inner, -, h⟩
  · exact holds
  · exact keeps _ _ _ _ _ _ _ h.1 holds h.2

theorem localNameInBase_keeps {fuel : Nat} (keeps : Keeps src I (importName src fuel))
    {chain : List String} {x y : String} {st st' : State} (start : I st)
    (h : (Site.base.localName src (importName src fuel) chain x).run st = .ok (y, st')) :
    I st' := by
  rcases localName_base_eq_ok h with ⟨-, -, rfl⟩ | ⟨key, label, -, labelled, imported⟩
  · exact start
  · exact keeps _ _ _ _ _ _ _ labelled start imported

theorem baseTypes_keeps (keeps : ∀ fuel, Keeps src I (importName src fuel))
    {types : List TypeDefinition} {st' : State} (start : I {})
    (h : (baseTypes src).run {} = .ok (types, st')) : I st' := by
  refine mapM_preserves (fun d hd s s' e holds mapped => ?_) start h
  rw [d.mapReferences_eq, StateT.run_map, Except.map_eq_ok_iff] at mapped
  obtain ⟨⟨names, _⟩, followed, filled⟩ := mapped
  cases filled
  exact mapM_preserves (fun x hx s s' y => localNameInBase_keeps (keeps _)) holds followed

end Keeping

section Result

def sources (base : Schema) (packages : List Package) : Sources :=
  ⟨base, Dict.ofList (packages.map fun p => (p.name, p.schema))⟩

/-- What is known of a schema that an import resulted in. -/
structure Resulted (src : Sources) (Good : String → Prop) (st : State) (r : Schema) : Prop where
  sound : Sound src Good st
  leads : ∀ d ∈ src.base.types, ∀ x ∈ d.referredNames, st.BaseLeads src x
  run : Run src Good (fun target => ∃ d ∈ src.base.types, ∃ x ∈ d.referredNames,
    src.baseTarget? x = some target) {} st
  tables : Schema.Tables { src.base.info with namespaces := src.base.info.namespaces.clear }
    (src.base.types.map (·.replaced (st.baseName src)) ++ st.imported.values.filterMap id)
    src.base.limits r

/-- A successful import settles the references of the base and builds a schema. -/
theorem importPackages_eq_ok {base : Schema} {packages : List Package} {order : HashOrder}
    {r : Schema} (h : base.importPackages packages order = .ok r) :
    ∃ types st, (baseTypes (sources base packages)).run {} = .ok (types, st) ∧
      Schema.Tables { base.info with namespaces := base.info.namespaces.clear }
        (types ++ st.imported.values.filterMap id) base.limits r := by
  unfold Schema.importPackages at h
  split at h
  · cases h
  · rw [Except.bind_eq_ok_iff] at h
    obtain ⟨⟨types, st⟩, followed, h⟩ := h
    dsimp only at h
    split at h
    · next s built =>
      cases h
      exact ⟨types, st, followed, Schema.tables_of_build built⟩
    · cases h
    · cases h

theorem resulted_of_run {src : Sources} {Good : String → Prop} (naming : Names src Good)
    {types : List TypeDefinition} {st : State} {r : Schema}
    (h : (baseTypes src).run {} = .ok (types, st))
    (tables : Schema.Tables { src.base.info with namespaces := src.base.info.namespaces.clear }
      (types ++ st.imported.values.filterMap id) src.base.limits r) :
    Resulted src Good st r := by
  obtain ⟨sound, rfl, leads, run⟩ := baseTypes_run naming h
  exact ⟨sound, leads, run, tables⟩

namespace Resulted

variable {src : Sources} {Good : String → Prop} {st : State} {r : Schema}
  (result : Resulted src Good st r)
include result

theorem imported_eq : ∃ new : Dict TypeDefinition, st.imported = finished new := by
  simpa using result.run.grows.imported

theorem mem_finished_iff {e : TypeDefinition} :
    e ∈ st.imported.values.filterMap id ↔ (e.name, some e) ∈ st.imported := by
  constructor
  · intro h
    obtain ⟨o, entry, same⟩ := List.mem_filterMap.mp h
    obtain ⟨⟨name, _⟩, member, rfl⟩ := List.mem_map.mp entry
    cases same
    rwa [result.sound.named name e member]
  · exact fun h => List.mem_filterMap.mpr ⟨some e, List.mem_map_of_mem h, rfl⟩

theorem mem_drop_iff {e : TypeDefinition} :
    e ∈ r.types.drop src.base.types.length ↔ (e.name, some e) ∈ st.imported := by
  rw [result.tables.types_eq, List.drop_left' (by simp), result.mem_finished_iff]

theorem mem_types_iff {e : TypeDefinition} :
    e ∈ r.types ↔ e ∈ src.base.types.map (·.replaced (st.baseName src)) ∨
      (e.name, some e) ∈ st.imported := by
  rw [result.tables.types_eq, List.mem_append, result.mem_finished_iff]

theorem get?_of_mem {e : TypeDefinition} (h : e ∈ r.types) : r.get? e.name = some e := by
  have distinct := result.tables.distinct
  rw [← result.tables.types_eq] at distinct
  exact declared?_of_mem distinct h

/-- A definition of the base without qualified references is one of the result. -/
theorem get?_of_plain {d : TypeDefinition} (hd : d ∈ src.base.types)
    (plain : ∀ x ∈ d.referredNames, ':' ∉ x.toList) : r.get? d.name = some d := by
  have same : d.replaced (st.baseName src) = d :=
    TypeDefinition.replaced_of_fixed fun x hx => st.baseName_of_not_mem src (plain x hx)
  refine result.get?_of_mem (result.mem_types_iff.mpr (Or.inl ?_))
  exact List.mem_map.mpr ⟨d, hd, same⟩

theorem mem_typeNames_of_isUsed {name : String} (used : st.isUsed src.base name = true) :
    name ∈ r.typeNames := by
  rcases State.isUsed_iff.mp used with declared | imported
  · obtain ⟨d, hd, rfl⟩ := List.mem_map.mp (declared?_isSome_iff.mp declared)
    exact List.mem_map.mpr ⟨d.replaced (st.baseName src),
      result.mem_types_iff.mpr (Or.inl (List.mem_map_of_mem hd)), rfl⟩
  · obtain ⟨new, grown⟩ := result.imported_eq
    obtain ⟨⟨n, o⟩, member, rfl⟩ := List.mem_map.mp imported
    have entry := member
    rw [grown] at entry
    obtain ⟨⟨_, e⟩, -, same⟩ := List.mem_map.mp entry
    cases same
    have named := result.sound.named _ e member
    rw [← named] at member
    exact List.mem_map.mpr ⟨e, result.mem_types_iff.mpr (Or.inr member), named⟩

end Resulted

end Result

end Jadn.Import
