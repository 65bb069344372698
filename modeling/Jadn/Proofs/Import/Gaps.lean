import Jadn.Proofs.Import.Folding

/-!
Where an import stops because a reference leads nowhere.

The error comes with a chain: the name of a definition of the base, and then references, each made
by the definition that the one before it denotes. A trail follows such a chain through the schemas
on the way, each reference being read by the namespaces of the schema in which it is made. Every
step of the importer extends the trail by the reference that it asks for, so at an error the trail
has arrived at the definition that makes the failing reference.
-/

set_option autoImplicit false

namespace Jadn.Import

def Site.schema (src : Sources) : Site → Schema
  | .base => src.base
  | .within schema _ _ => schema

/-- What a reference denotes where it is made: a qualified one by the namespaces there, any other
one within the package that it is made in, where it counts as qualified by the label under which
that package was reached. References of the base that are not qualified, and base types, denote
nothing in packages. -/
inductive Site.Denotes (src : Sources) :
    Site → (reference : String) → (package label name : String) → Prop where
  | qualified {site : Site} {label name package : String} (plain : ':' ∉ label.toList)
      (known : (site.schema src).info.namespaces.package? label = some package) :
      Denotes src site (Name.qualify label name) package label name
  | own {schema : Schema} {package label name : String} (plain : ':' ∉ name.toList)
      (defined : BaseType.ofName? name = none) :
      Denotes src (.within schema package label) name package label name

/-- References that lead from a definition of the base to a definition of the base or of a package:
each is made by the definition that the one before it denotes. -/
inductive Sources.Trail (src : Sources) :
    (owner : String) → (references : List String) → Site → TypeDefinition → Prop where
  | start {d : TypeDefinition} (declared : d ∈ src.base.types) : Trail src d.name [] .base d
  | step {owner x package label name : String} {references : List String} {site : Site}
      {d e : TypeDefinition} {schema : Schema} (trail : Trail src owner references site d)
      (made : x ∈ d.referredNames) (denotes : site.Denotes src x package label name)
      (supplied : src.packages.lookup package = some schema)
      (declared : schema.get? name = some e) :
      Trail src owner (references ++ [x]) (.within schema package label) e

/-- What is wrong with a reference at the end of a trail: its label is not declared where it is
made, or else it ends the references itself and, in its qualified form, denotes a package that is
not supplied or a type that its package does not declare. -/
inductive Sources.Gap (src : Sources) (owner : String) :
    (references : List String) → (reference : String) → Prop where
  | undeclared {references : List String} {site : Site} {d : TypeDefinition} {label name : String}
      (trail : src.Trail owner references site d)
      (made : Name.qualify label name ∈ d.referredNames) (plain : ':' ∉ label.toList)
      (unknown : (site.schema src).info.namespaces.package? label = none) :
      Gap src owner references (Name.qualify label name)
  | unsupplied {references : List String} {site : Site} {d : TypeDefinition}
      {x package label name : String} (trail : src.Trail owner references site d)
      (made : x ∈ d.referredNames) (denotes : site.Denotes src x package label name)
      (missing : src.packages.lookup package = none) :
      Gap src owner (references ++ [x]) (Name.qualify label name)
  | absent {references : List String} {site : Site} {d : TypeDefinition}
      {x package label name : String} {schema : Schema} (trail : src.Trail owner references site d)
      (made : x ∈ d.referredNames) (denotes : site.Denotes src x package label name)
      (supplied : src.packages.lookup package = some schema)
      (missing : schema.get? name = none) :
      Gap src owner (references ++ [x]) (Name.qualify label name)

def Site.Explains (src : Sources) (site : Site) (reference : String) : Request → Prop
  | .nothing => True
  | .unknown => ∃ label name, reference = Name.qualify label name ∧ ':' ∉ label.toList ∧
      (site.schema src).info.namespaces.package? label = none
  | .definition package label name => site.Denotes src reference package label name

theorem Site.explains_request (src : Sources) (site : Site) (x : String) :
    site.Explains src x (site.request src x) := by
  cases site with
  | base =>
    change Site.base.Explains src x (src.request x)
    unfold Sources.request
    split
    · next qualified =>
      obtain ⟨rfl, plain⟩ := splitNamespace_eq_some qualified
      split
      · next known => exact .qualified plain known
      · next unknown => exact ⟨_, _, rfl, plain, unknown⟩
    · trivial
  | within schema package label =>
    change (Site.within schema package label).Explains src x (requestWithin schema package label x)
    unfold requestWithin
    split
    · trivial
    · next defined =>
      split
      · next qualified =>
        obtain ⟨rfl, plain⟩ := splitNamespace_eq_some qualified
        split
        · next known => exact .qualified plain known
        · next unknown => exact ⟨_, _, rfl, plain, unknown⟩
      · next unqualified =>
        obtain ⟨rfl, plain⟩ := splitNamespace_eq_none unqualified
        exact .own plain (Option.not_isSome_iff_eq_none.mp defined)

theorem Site.undeclared_of_request {src : Sources} {site : Site} {x : String}
    (request : site.request src x = .unknown) :
    ∃ label name, x = Name.qualify label name ∧ ':' ∉ label.toList ∧
      (site.schema src).info.namespaces.package? label = none := by
  have explained := site.explains_request src x
  rwa [request] at explained

theorem Site.denotes_of_request {src : Sources} {site : Site} {x package label name : String}
    (request : site.request src x = .definition package label name) :
    site.Denotes src x package label name := by
  have explained := site.explains_request src x
  rwa [request] at explained

section Errors

variable {src : Sources} {st : State} {package label name reference : String}
  {chain chain' : List String}

theorem visit_ne_unresolved :
    (visit src package).run st ≠ .error (.unresolved reference chain) := by
  intro h
  simp only [visit, StateT.run_bind, StateT.run_get, pure_bind] at h
  split at h
  · cases h
  · simp only [StateT.run_bind, StateT.run_set, pure_bind] at h
    split at h <;> cases h

theorem locate_eq_unresolved
    (h : (locate src package label name chain).run st = .error (.unresolved reference chain')) :
    reference = Name.qualify label name ∧ chain' = chain ∧
      (src.packages.lookup package = none ∨
        ∃ schema, src.packages.lookup package = some schema ∧ schema.get? name = none) := by
  unfold locate at h
  split at h
  · next schema supplied =>
    rw [StateT.run_bind, Except.bind_eq_error_iff] at h
    rcases h with visited | ⟨⟨⟨⟩, after⟩, -, h⟩
    · exact absurd visited visit_ne_unresolved
    · split at h
      · cases h
      · next missing =>
        cases h
        exact ⟨rfl, rfl, Or.inr ⟨schema, supplied, Option.eq_none_iff_forall_ne_some.mpr missing⟩⟩
  · next missing =>
    cases h
    exact ⟨rfl, rfl, Or.inl (Option.eq_none_iff_forall_ne_some.mpr missing)⟩

/-- An import whose references are settled fails only for its name. -/
theorem conclude_ne_unresolved {located : State} {source : TypeDefinition} {names : List String} :
    (conclude src package label name located (source.refilled names)).run st ≠
      .error (.unresolved reference chain) := by
  intro h
  unfold conclude at h
  split at h
  · simp only [settle, StateT.run_bind, StateT.run_get, pure_bind] at h
    split at h
    · cases h
    · split at h
      · cases h
      · split at h <;> cases h
  · cases h

/-- Where references are followed that a definition at the end of a trail makes, an unresolved one
is the gap at which a trail ends that goes on from there. The induction is on the references that
are followed, so that a reference below a definition is found on the trail to that definition. -/
theorem Executes.gap {site : Site} {references before : List String}
    {followed : List (String × String)} {outcome : Except ImportError (List String × State)}
    (h : Executes src site chain references st followed outcome) {owner : String}
    {d : TypeDefinition} (trail : src.Trail owner before site d) (along : chain = owner :: before)
    (made : ∀ x ∈ references, x ∈ d.referredNames)
    (fails : outcome = .error (.unresolved reference chain')) :
    ∃ after, chain' = owner :: after ∧ src.Gap owner after reference := by
  induction h generalizing before d with
  | done => cases fails
  | kept _ _ later | met _ _ _ later =>
    exact later trail along (fun y hy => made y (List.mem_cons_of_mem _ hy))
      (Except.map_eq_error_iff.mp fails)
  | unknown request =>
    cases fails
    obtain ⟨label, name, rfl, plain, unknown⟩ := Site.undeclared_of_request request
    exact ⟨before, along, .undeclared trail (made _ List.mem_cons_self) plain unknown⟩
  | absent request _ missing =>
    cases fails
    have denotes := Site.denotes_of_request request
    obtain ⟨rfl, rfl, unsupplied | ⟨schema, supplied, absent⟩⟩ := locate_eq_unresolved missing
    · exact ⟨_, by rw [along]; rfl,
        .unsupplied trail (made _ List.mem_cons_self) denotes unsupplied⟩
    · exact ⟨_, by rw [along]; rfl,
        .absent trail (made _ List.mem_cons_self) denotes supplied absent⟩
  | failed request opens _ below =>
    cases fails
    obtain ⟨supplied, declared, -, -⟩ := locate_eq_ok opens.locates
    have further := trail.step (made _ List.mem_cons_self) (Site.denotes_of_request request)
      supplied declared
    exact below further (by rw [along]; rfl) (fun y hy => hy) rfl
  | unsettled _ _ _ ends =>
    cases fails
    exact absurd ends conclude_ne_unresolved
  | followed _ _ _ _ _ _ later =>
    exact later trail along (fun y hy => made y (List.mem_cons_of_mem _ hy))
      (Except.map_eq_error_iff.mp fails)

theorem Resolves.gap {ds : List TypeDefinition} {followed : List (String × String)}
    {outcome : Except ImportError (List TypeDefinition × State)}
    (h : Resolves src ds st followed outcome) (listed : ∀ d ∈ ds, d ∈ src.base.types)
    (fails : outcome = .error (.unresolved reference chain)) :
    ∃ owner references, chain = owner :: references ∧ src.Gap owner references reference := by
  induction h with
  | done => cases fails
  | @failed d _ _ _ _ inner =>
    cases fails
    have start : src.Trail d.name [] .base d := .start (listed _ List.mem_cons_self)
    exact ⟨d.name, inner.gap start rfl (fun x hx => hx) rfl⟩
  | resolved _ _ later =>
    exact later (fun d hd => listed d (List.mem_cons_of_mem _ hd))
      (Except.map_eq_error_iff.mp fails)

end Errors

end Jadn.Import

namespace Jadn.Schema

open Import

theorem baseTypes_of_unresolved {base : Schema} {packages : List Package} {order : HashOrder}
    {reference : String} {chain : List String}
    (h : base.importPackages packages order = .error (.unresolved reference chain)) :
    (baseTypes (sources base packages)).run {} = .error (.unresolved reference chain) := by
  unfold importPackages at h
  split at h
  · cases h
  · rw [Except.bind_eq_error_iff] at h
    rcases h with failed | ⟨⟨types, st⟩, -, h⟩
    · exact failed
    · dsimp only at h
      split at h <;> cases h

/-- If a reference is unresolved, then the chain of the error is a trail: it starts with a
definition of the base, and each reference on it is made by the definition that the one before it
denotes. The trail ends at a gap, and the reference of the error is what is missing there. -/
theorem importPackages_unresolved {base : Schema} {packages : List Package} {order : HashOrder}
    {reference : String} {chain : List String}
    (h : base.importPackages packages order = .error (.unresolved reference chain)) :
    ∃ owner references, chain = owner :: references ∧
      (sources base packages).Gap owner references reference := by
  have run := baseTypes_of_unresolved h
  obtain ⟨followed, outcome, resolves⟩ := exists_resolves (sources base packages) base.types {}
  have computed : (baseTypes (sources base packages)).run {} = outcome := resolves.run_eq
  exact resolves.gap (fun d hd => hd) (computed.symm.trans run)

def leading : Schema :=
  declaring "pkg" [("q", "other")] [wrapping "Node" "next" "Mark", wrapping "Mark" "of" "q:Key"]

/-- The chain goes through both packages, and the missing type counts as qualified by the label
under which its own package was reached. -/
theorem importPackages_unresolved_leading :
    (declaring "base" [("p", "pkg")] [wrapping "Root" "start" "p:Node"]).importPackages
        [⟨"pkg", leading⟩, ⟨"other", declaring "other" [] [wrapping "Key" "to" "Lock"]⟩] .entered =
      .error (.unresolved "q:Lock" ["Root", "p:Node", "Mark", "q:Key", "Lock"]) ∧
      ∃ owner references,
        ["Root", "p:Node", "Mark", "q:Key", "Lock"] = owner :: references ∧
          (sources (declaring "base" [("p", "pkg")] [wrapping "Root" "start" "p:Node"])
            [⟨"pkg", leading⟩, ⟨"other", declaring "other" [] [wrapping "Key" "to" "Lock"]⟩]).Gap
              owner references "q:Lock" := by
  have stops : (declaring "base" [("p", "pkg")] [wrapping "Root" "start" "p:Node"]).importPackages
        [⟨"pkg", leading⟩, ⟨"other", declaring "other" [] [wrapping "Key" "to" "Lock"]⟩] .entered =
      .error (.unresolved "q:Lock" ["Root", "p:Node", "Mark", "q:Key", "Lock"]) :=
    Except.map_eq_error_iff (f := Schema.typeNames).mp (by decide +kernel)
  exact ⟨stops, importPackages_unresolved stops⟩

end Jadn.Schema
