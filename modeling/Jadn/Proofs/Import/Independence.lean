import Jadn.Proofs.Import.Representation
import Jadn.Proofs.Import.Termination
import Jadn.Proofs.Schema.Determinacy

/-!
What an import depends on: the packages that it reaches.

A package is looked up when a qualified reference is followed whose label stands for it, or from a
definition of its own. So an import takes the same course with other packages in place of those
that no reference on its way asks for: it follows the same definitions, gives them the same local
names and comes to the same result or the same error. Which one is reported of several fields whose
patterns do not compile is left to the order of a hash table.
-/

set_option autoImplicit false

namespace Jadn.Import

open Relation (ReflTransGen)

section Targets

variable {src : Sources} {package : String}

/-- The packages that labels stand for, in the qualified references that an import reaches: those of
the base, and those of the definitions that it reaches in packages. -/
inductive Sources.Targets (src : Sources) : String → Prop where
  | base {d : TypeDefinition} {x label name package : String} (listed : d ∈ src.base.types)
      (refers : x ∈ d.referredNames) (qualified : Name.splitNamespace x = (some label, name))
      (known : src.base.info.namespaces.package? label = some package) : Targets src package
  | within {key : String × String} {schema : Schema} {d : TypeDefinition}
      {x label name package : String} (reached : src.Reached key)
      (found : src.packages.lookup key.1 = some schema) (declared : schema.get? key.2 = some d)
      (refers : x ∈ d.referredNames) (qualified : Name.splitNamespace x = (some label, name))
      (known : schema.info.namespaces.package? label = some package) : Targets src package

theorem ofName?_of_qualified {x label name : String}
    (qualified : Name.splitNamespace x = (some label, name)) : BaseType.ofName? x = none := by
  refine Option.not_isSome_iff_eq_none.mp fun base => ?_
  rw [splitNamespace_of_not_mem (not_mem_of_baseType base)] at qualified
  cases qualified

theorem Sources.target?_of_qualified {schema : Schema} {within x label name : String}
    (found : src.packages.lookup within = some schema)
    (qualified : Name.splitNamespace x = (some label, name)) :
    src.target? within x = (schema.info.namespaces.package? label).map (·, name) := by
  simp [Sources.target?, ofName?_of_qualified qualified, qualified, found]

theorem Sources.target?_of_plain {within x name : String} {key : String × String}
    (plain : Name.splitNamespace x = (none, name)) (leads : src.target? within x = some key) :
    key.1 = within := by
  unfold Sources.target? at leads
  split at leads
  · cases leads
  · rw [plain] at leads
    cases leads
    rfl

theorem Sources.Reached.targets {key : String × String} (reached : src.Reached key) :
    src.Targets key.1 := by
  obtain ⟨root, listed, steps⟩ := reached
  induction steps with
  | refl =>
    obtain ⟨d, hd, x, hx, leads⟩ := Sources.mem_roots.mp listed
    obtain ⟨label, qualified, known⟩ := Sources.baseTarget?_eq_some_iff.mp leads
    exact .base hd hx qualified known
  | @tail key key' before refers targets =>
    obtain ⟨d, defined, x, hx, leads⟩ := Sources.mem_next.mp refers
    obtain ⟨schema, found, declared⟩ := Option.bind_eq_some_iff.mp defined
    cases parts : Name.splitNamespace x with
    | mk label? name =>
      cases label? with
      | none => exact Sources.target?_of_plain parts leads ▸ targets
      | some label =>
        rw [Sources.target?_of_qualified found parts] at leads
        obtain ⟨package, known, rfl⟩ := Option.map_eq_some_iff.mp leads
        exact .within ⟨root, listed, before⟩ found declared hx parts known

/-- The targets are the packages of what is reached. -/
theorem Sources.targets_iff : src.Targets package ↔ ∃ name, src.Reached (package, name) := by
  constructor
  · intro targets
    cases targets with
    | @base d x label name _ listed refers qualified known =>
      have leads : src.baseTarget? x = some (package, name) :=
        Sources.baseTarget?_eq_some_iff.mpr ⟨label, qualified, known⟩
      exact ⟨name, _, Sources.mem_roots.mpr ⟨d, listed, x, refers, leads⟩, .refl⟩
    | @within key schema d x label name _ reached found declared refers qualified known =>
      have defined : src.definition? key = some d :=
        Option.bind_eq_some_iff.mpr ⟨schema, found, declared⟩
      have leads : src.target? key.1 x = some (package, name) := by
        rw [Sources.target?_of_qualified found qualified, known, Option.map_some]
      exact ⟨name, reached.next (Sources.mem_next.mpr ⟨d, defined, x, refers, leads⟩)⟩
  · rintro ⟨name, reached⟩
    exact reached.targets

theorem Sources.Reached.mem_of_closed {keys : List (String × String)} (roots : src.roots ⊆ keys)
    (closed : ∀ key ∈ keys, src.next key ⊆ keys) {key : String × String}
    (reached : src.Reached key) : key ∈ keys := by
  obtain ⟨root, listed, steps⟩ := reached
  induction steps with
  | refl => exact roots listed
  | tail _ refers member => exact closed _ member refers

theorem Sources.Targets.mem_of_closed {keys : List (String × String)}
    (targets : src.Targets package) (roots : src.roots ⊆ keys)
    (closed : ∀ key ∈ keys, src.next key ⊆ keys) : package ∈ keys.map Prod.fst := by
  obtain ⟨name, reached⟩ := Sources.targets_iff.mp targets
  exact List.mem_map_of_mem (reached.mem_of_closed roots closed)

end Targets

section Exchange

variable {src : Sources} {others : Dict Schema}

def Sources.given (src : Sources) (packages : Dict Schema) : Sources := { src with packages }

/-- Other packages are the same as far as an import reaches. -/
def Sources.SameReached (src : Sources) (others : Dict Schema) : Prop :=
  ∀ key, src.Reached key → others.lookup key.1 = src.packages.lookup key.1

theorem Site.request_given (site : Site) (x : String) :
    site.request (src.given others) x = site.request src x := by
  cases site <;> rfl

theorem Sources.next_given {key : String × String}
    (same : others.lookup key.1 = src.packages.lookup key.1) :
    (src.given others).next key = src.next key := by
  have definition : (src.given others).definition? key = src.definition? key := by
    simp only [Sources.definition?, Sources.given, same]
  have targets : (src.given others).target? key.1 = src.target? key.1 := by
    funext x
    simp only [Sources.target?, Sources.given, same]
  rw [Sources.next, Sources.next, definition, targets]

theorem locate_given {package label name : String} {chain : List String}
    (same : others.lookup package = src.packages.lookup package) :
    locate (src.given others) package label name chain = locate src package label name chain := by
  unfold locate
  rw [show (src.given others).packages.lookup package = src.packages.lookup package from same]
  rfl

namespace Sources.SameReached

variable (same : src.SameReached others)
include same

theorem reached_iff {key : String × String} : (src.given others).Reached key ↔ src.Reached key := by
  constructor
  · rintro ⟨root, listed, steps⟩
    induction steps with
    | refl => exact ⟨root, listed, .refl⟩
    | tail _ refers reached => exact reached.next (next_given (same _ reached) ▸ refers)
  · rintro ⟨root, listed, steps⟩
    induction steps with
    | refl => exact ⟨root, listed, .refl⟩
    | tail before refers reached =>
      have own : src.Reached _ := ⟨root, listed, before⟩
      exact reached.next (next_given (same _ own) ▸ refers)

theorem targets_iff {package : String} :
    (src.given others).Targets package ↔ src.Targets package := by
  rw [Sources.targets_iff, Sources.targets_iff]
  exact exists_congr fun _ => same.reached_iff

end Sources.SameReached

theorem Opens.given {package label name : String} {chain : List String} {st located : State}
    {schema : Schema} {source : TypeDefinition}
    (opens : Opens src package label name chain st schema source located)
    (same : others.lookup package = src.packages.lookup package) :
    Opens (src.given others) package label name chain st schema source located :=
  ⟨opens.unmet, locate_given same ▸ opens.locates⟩

/-- References come to the same with packages that are the same as far as they reach. The induction
is on the execution: each package is looked up for what a reference asks for, which is reached. -/
theorem Executes.given {site : Site} {chain references : List String} {st : State}
    {followed : List (String × String)} {outcome : Except ImportError (List String × State)}
    (h : Executes src site chain references st followed outcome) (same : src.SameReached others)
    (asks : ∀ x ∈ references, ∀ package label name,
      site.request src x = .definition package label name → src.Reached (package, name)) :
    Executes (src.given others) site chain references st followed outcome := by
  induction h with
  | done => exact .done
  | kept request _ rest =>
    exact .kept (Site.request_given _ _ ▸ request)
      (rest fun y hy => asks y (List.mem_cons_of_mem _ hy))
  | unknown request => exact .unknown (Site.request_given _ _ ▸ request)
  | met request noted _ rest =>
    exact .met (Site.request_given _ _ ▸ request) noted
      (rest fun y hy => asks y (List.mem_cons_of_mem _ hy))
  | absent request unmet missing =>
    have own := asks _ List.mem_cons_self _ _ _ request
    exact .absent (Site.request_given _ _ ▸ request) unmet (locate_given (same _ own) ▸ missing)
  | failed request opens _ inner =>
    have own := asks _ List.mem_cons_self _ _ _ request
    exact .failed (Site.request_given _ _ ▸ request) (opens.given (same _ own))
      (inner fun y hy _ _ _ => opens.reached own hy)
  | unsettled request opens _ ends inner =>
    have own := asks _ List.mem_cons_self _ _ _ request
    exact .unsettled (Site.request_given _ _ ▸ request) (opens.given (same _ own))
      (inner fun y hy _ _ _ => opens.reached own hy) ends
  | followed request opens _ ends _ inner rest =>
    have own := asks _ List.mem_cons_self _ _ _ request
    exact .followed (Site.request_given _ _ ▸ request) (opens.given (same _ own))
      (inner fun y hy _ _ _ => opens.reached own hy) ends
      (rest fun y hy => asks y (List.mem_cons_of_mem _ hy))

theorem Resolves.given {ds : List TypeDefinition} {st : State} {followed : List (String × String)}
    {outcome : Except ImportError (List TypeDefinition × State)}
    (h : Resolves src ds st followed outcome) (same : src.SameReached others)
    (listed : ∀ d ∈ ds, d ∈ src.base.types) :
    Resolves (src.given others) ds st followed outcome := by
  induction h with
  | done => exact .done
  | failed inner =>
    exact .failed (inner.given same (reached_of_base (listed _ List.mem_cons_self)))
  | resolved inner _ later =>
    exact .resolved (inner.given same (reached_of_base (listed _ List.mem_cons_self)))
      (later fun d hd => listed d (List.mem_cons_of_mem _ hd))

/-- The definitions that an import puts together, before it builds a schema of them. -/
def Sources.Settles (src : Sources) (definitions : List TypeDefinition) : Prop :=
  ∃ types st, (baseTypes src).run {} = .ok (types, st) ∧
    definitions = types ++ st.imported.values.filterMap id

theorem baseTypes_given (same : src.SameReached others) :
    (baseTypes (src.given others)).run {} = (baseTypes src).run {} := by
  obtain ⟨followed, outcome, resolves⟩ := exists_resolves src src.base.types {}
  exact (resolves.given same fun d hd => hd).run_eq.trans resolves.run_eq.symm

end Exchange

section Lists

variable {base : Schema} {packages others : List Package}

theorem lookup_sources_eq_some_iff (distinct : (packages.map (·.name)).Nodup) {package : String}
    {schema : Schema} : (sources base packages).packages.lookup package = some schema ↔
      ⟨package, schema⟩ ∈ packages := by
  have keys : ((packages.map fun p => (p.name, p.schema)).map Prod.fst).Nodup := by
    simpa [Function.comp_def] using distinct
  constructor
  · exact mem_of_lookup_sources
  · intro member
    rw [sources, Dict.ofList_of_nodup keys]
    exact lookup_of_mem keys (List.mem_map.mpr ⟨_, member, rfl⟩)

theorem sameReached_of_targets (distinct : (packages.map (·.name)).Nodup)
    (distinct' : (others.map (·.name)).Nodup)
    (same : ∀ p : Package, (sources base packages).Targets p.name → (p ∈ packages ↔ p ∈ others)) :
    (sources base packages).SameReached (sources base others).packages := by
  intro key reached
  ext schema
  rw [lookup_sources_eq_some_iff distinct, lookup_sources_eq_some_iff distinct']
  exact (same ⟨key.1, schema⟩ reached.targets).symm

end Lists

end Jadn.Import

namespace Jadn.Schema

open Import

theorem importPackages_congr {base : Schema} {packages others : List Package}
    (same : (baseTypes (sources base packages)).run {} = (baseTypes (sources base others)).run {})
    (order : HashOrder) :
    base.importPackages packages order = base.importPackages others order := by
  rw [sources, sources] at same
  simp only [Schema.importPackages, same]

theorem importPackages_eq {base : Schema} (named : base.info.namespaces.isEmpty = false)
    (packages : List Package) (order : HashOrder) :
    base.importPackages packages order =
      ((baseTypes (sources base packages)).run {}).bind fun p =>
        match build { base.info with namespaces := base.info.namespaces.clear }
          (p.1 ++ p.2.imported.values.filterMap id) base.limits order with
        | .ok s => .ok s
        | .error (.parse e) => .error (.invalidResult e)
        | .error e => .error (.invalidResult (.of (.other e.toText))) := by
  unfold Schema.importPackages
  rw [named]
  rfl

/-- The order makes no difference to an import, or else it fails when its result is built, and the
faults of the patterns of fields are what is reported, each in some order. -/
theorem importPackages_determined_or (base : Schema) (packages : List Package) :
    (∀ order order', base.importPackages packages order = base.importPackages packages order') ∨
      ∃ definitions, (sources base packages).Settles definitions ∧
        (∀ d ∈ definitions, d.options.PatternCompiles) ∧
          ∀ outcome, (∃ order, base.importPackages packages order = outcome) ↔
            ∃ e, FieldFault definitions e ∧ outcome = .error (.invalidResult e) := by
  cases named : base.info.namespaces.isEmpty with
  | true =>
    refine .inl fun _ _ => ?_
    unfold Schema.importPackages
    rw [named]
    rfl
  | false =>
    have built := importPackages_eq named packages
    cases run : (baseTypes (sources base packages)).run {} with
    | error e => exact .inl fun _ _ => by rw [built, built, run]; rfl
    | ok reached =>
      obtain ⟨types, st⟩ := reached
      simp only [run, Except.bind] at built
      rcases build_determined_or { base.info with namespaces := base.info.namespaces.clear }
          (types ++ st.imported.values.filterMap id) base.limits
        with determined | ⟨compile, reported⟩
      · exact .inl fun order order' => by rw [built, built, determined order order']
      · refine .inr ⟨_, ⟨types, st, run, rfl⟩, compile, fun outcome => ⟨?_, ?_⟩⟩
        · rintro ⟨order, rfl⟩
          obtain ⟨e, fault, fails⟩ := (reported _).mp ⟨order, rfl⟩
          exact ⟨e, fault, by rw [built, fails]⟩
        · rintro ⟨e, fault, rfl⟩
          obtain ⟨order, fails⟩ := (reported _).mpr ⟨e, fault, rfl⟩
          exact ⟨order, by rw [built, fails]⟩

/-- An import depends only on the packages that it reaches. Of two lists of packages with distinct
names that hold the same packages for the labels of the references reached, both give the same
schema, with its definitions in the same order, or the same error, if patterns are compiled in the
same order. So the order of the packages makes no difference, and neither do packages that no such
label stands for. Which ones these are is the same for both lists.

The order in which patterns are compiled makes no difference either, unless the pattern of some
field does not compile and those of all definitions do. Then both lists give just the errors for
these fields, each in some order. -/
theorem importPackages_reached {base : Schema} {packages others : List Package}
    (distinct : (packages.map (·.name)).Nodup) (distinct' : (others.map (·.name)).Nodup)
    (same : ∀ p : Package, (sources base packages).Targets p.name → (p ∈ packages ↔ p ∈ others)) :
    (∀ order, base.importPackages packages order = base.importPackages others order) ∧
      ((∀ order order', base.importPackages packages order = base.importPackages others order') ∨
        ∃ definitions, (sources base packages).Settles definitions ∧
          (∀ d ∈ definitions, d.options.PatternCompiles) ∧
            ∀ outcome, (∃ order, base.importPackages others order = outcome) ↔
              ∃ e, FieldFault definitions e ∧ outcome = .error (.invalidResult e)) ∧
        ∀ package, (sources base packages).Targets package ↔
          (sources base others).Targets package := by
  have reached := sameReached_of_targets distinct distinct' same
  have equal := importPackages_congr (baseTypes_given reached).symm
  refine ⟨equal, ?_, fun _ => reached.targets_iff.symm⟩
  rcases importPackages_determined_or base packages with determined | ⟨definitions, settles, all⟩
  · exact .inl fun order order' => (determined order order').trans (equal order')
  · refine .inr ⟨definitions, settles, all.1, fun outcome => ?_⟩
    simpa only [equal] using all.2 outcome

/-- A schema that refers to a text in two fields, with patterns that do not compile. -/
def ragged : Schema where
  info := { namespaces := { packages := [("a", "first")] } }
  types := [{
    name := "Root"
    options := {}
    description := ""
    kind := .record [
      { id := 1, name := "left", typeRef := "a:Text", options := { pattern := some "(" },
        description := "" },
      { id := 2, name := "right", typeRef := "a:Text", options := { pattern := some ")" },
        description := "" }] }]
  limits := {}
  extensions := []
  fieldTypes := []
  patterns := []

def lettered : Schema where
  info := {}
  types := [{ name := "Text", options := {}, description := "", kind := .string }]
  limits := {}
  extensions := []
  fieldTypes := []
  patterns := []

/-- Two packages that refer to one another are imported in the same way in the other order, with
another package between them and without one that nothing refers to. If the patterns of two fields
do not compile, then either one may be reported, with other packages just as without them. -/
theorem importPackages_reached_cyclic :
    (∃ r : Schema, r.typeNames = ["Root", "Node", "B-Node"] ∧
      (∀ order, (pointing "Root" "a:Node" [("a", "first")]).importPackages
        [⟨"first", pointing "Node" "b:Node" [("b", "second")]⟩,
          ⟨"second", pointing "Node" "a:Node" [("a", "first")]⟩,
          ⟨"third", pointing "Node" "a:Node" [("a", "first")]⟩] order = .ok r) ∧
      ∀ order, (pointing "Root" "a:Node" [("a", "first")]).importPackages
        [⟨"second", pointing "Node" "a:Node" [("a", "first")]⟩,
          ⟨"fourth", pointing "Root" "Node" []⟩,
          ⟨"first", pointing "Node" "b:Node" [("b", "second")]⟩] order = .ok r) ∧
      (∃ order, ragged.importPackages [⟨"first", lettered⟩] order =
        .error (.invalidResult ⟨.invalidPattern "(", some "Text", some "unclosed group"⟩)) ∧
      ∃ order, ragged.importPackages [⟨"second", lettered⟩, ⟨"first", lettered⟩] order =
        .error (.invalidResult ⟨.invalidPattern ")", some "Text", some "unopened group"⟩) := by
  refine ⟨?_, ⟨.entered, ?_⟩, ⟨.reversed, ?_⟩⟩
  · let base := pointing "Root" "a:Node" [("a", "first")]
    let first : Package := ⟨"first", pointing "Node" "b:Node" [("b", "second")]⟩
    let second : Package := ⟨"second", pointing "Node" "a:Node" [("a", "first")]⟩
    let third : Package := ⟨"third", pointing "Node" "a:Node" [("a", "first")]⟩
    let fourth : Package := ⟨"fourth", pointing "Root" "Node" []⟩
    let src := sources base [first, second, third]
    have names : (base.importPackages [first, second, third] .entered).toOption.map (·.typeNames) =
        some ["Root", "Node", "B-Node"] := by decide +kernel
    obtain ⟨r, imported, names⟩ := Option.map_eq_some_iff.mp names
    have done := Except.toOption_eq_some_iff.mp imported
    have same : ∀ p : Package, src.Targets p.name →
        (p ∈ [first, second, third] ↔ p ∈ [second, fourth, first]) := by
      intro p targets
      have named : p.name ∈ [("first", "Node"), ("second", "Node")].map Prod.fst :=
        targets.mem_of_closed (by decide +kernel) (by decide +kernel)
      have third : p ≠ third := by
        rintro rfl
        simp [third] at named
      have fourth : p ≠ fourth := by
        rintro rfl
        simp [fourth] at named
      simp [third, fourth, or_comm]
    obtain ⟨equal, determined | ⟨definitions, settles, -, reported⟩, -⟩ :=
      importPackages_reached (by decide) (by decide) same
    · have always : ∀ order, base.importPackages [second, fourth, first] order = .ok r :=
        fun order => (determined .entered order).symm.trans done
      exact ⟨r, names, fun order => (equal order).trans (always order), always⟩
    · obtain ⟨e, -, fails⟩ := (reported _).mp ⟨.entered, rfl⟩
      rw [← equal, done] at fails
      cases fails
  · exact (Except.map_eq_error_iff (f := Schema.typeNames)).mp (by decide +kernel)
  · have same : ∀ p : Package, (sources ragged [⟨"first", lettered⟩]).Targets p.name →
        (p ∈ [⟨"first", lettered⟩] ↔ p ∈ [⟨"second", lettered⟩, ⟨"first", lettered⟩]) := by
      intro p targets
      have named : p.name ∈ [("first", "Text")].map Prod.fst :=
        targets.mem_of_closed (by decide +kernel) (by decide +kernel)
      have other : p ≠ ⟨"second", lettered⟩ := by
        rintro rfl
        simp at named
      simp [other]
    obtain ⟨equal, -⟩ := importPackages_reached (by decide) (by decide) same
    rw [← equal]
    exact (Except.map_eq_error_iff (f := Schema.typeNames)).mp (by decide +kernel)

end Jadn.Schema
