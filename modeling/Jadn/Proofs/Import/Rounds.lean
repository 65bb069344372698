import Jadn.Proofs.Import.Termination

/-!
Executions made up of rounds.

What is known of runs of the importer holds of executions, whose outcome it computes: each
definition that is followed makes up a round, and the definitions followed are those that are
discovered depth first.
-/

set_option autoImplicit false

namespace Jadn.Import

variable {src : Sources} {Good : String → Prop} {st st' located st₂ st₃ : State}
  {package label name answer : String} {chain references names : List String} {schema : Schema}
  {source : TypeDefinition} {site : Site} {followed : List (String × String)}

section Sites

def Site.Labelled (src : Sources) : Site → Prop
  | .base => True
  | .within schema package label =>
    src.packages.lookup package = some schema ∧ src.Label label package

def Site.target? (src : Sources) : Site → String → Option (String × String)
  | .base => src.baseTarget?
  | .within _ package _ => src.target? package

theorem Site.target?_of_definition (labelled : site.Labelled src) {x : String}
    (request : site.request src x = .definition package label name) :
    site.target? src x = some (package, name) ∧ src.Label label package := by
  cases site with
  | base => exact baseTarget?_of_request request
  | within schema outer own => exact (target?_of_request labelled.1 request).imp_right (· labelled.2)

theorem Site.target?_of_nothing {x : String} (request : site.request src x = .nothing) :
    site.target? src x = none := by
  cases site with
  | base =>
    change src.request x = _ at request
    rw [Site.target?, Sources.baseTarget?, request, Request.target?]
  | within schema package label =>
    rw [Site.target?, Sources.target?, if_pos (baseType_of_request request)]

theorem Site.localName_run (naming : Names src Good) (labelled : site.Labelled src) {fuel : Nat}
    {x y : String} (sound : Sound src Good st)
    (h : (site.localName src (importName src fuel) chain x).run st = .ok (y, st')) :
    Sound src Good st' ∧ Run src Good (fun _ => True) st st' := by
  cases site with
  | base =>
    obtain ⟨sound', -, run⟩ := localName_base_run naming sound h
    exact ⟨sound', run.mono fun _ _ => trivial⟩
  | within schema package label =>
    obtain ⟨sound', -, -, run⟩ :=
      follow_run (importName_run naming fuel) labelled.1 labelled.2 sound h
    exact ⟨sound', run.mono fun _ _ => trivial⟩

end Sites

section Rounds

/-- The importer does what an execution says, given a bound that is high enough. -/
theorem Executes.exists_run (h : Executes src site chain references st followed (.ok (names, st'))) :
    ∃ fuel, (references.mapM (site.localName src (importName src fuel) chain)).run st =
      .ok (names, st') :=
  ⟨_, h.run_eq (Nat.lt_succ_self _)⟩

theorem Executes.run (naming : Names src Good) (labelled : site.Labelled src)
    (sound : Sound src Good st)
    (h : Executes src site chain references st followed (.ok (names, st'))) :
    Sound src Good st' ∧ Run src Good (fun _ => True) st st' := by
  obtain ⟨fuel, run⟩ := h.exists_run
  refine mapM_preserves (I := fun s => Sound src Good s ∧ Run src Good (fun _ => True) st s) ?_
    ⟨sound, Run.refl st⟩ run
  rintro x - s s' y ⟨sound, run⟩ h
  obtain ⟨sound', later⟩ := Site.localName_run naming labelled sound h
  exact ⟨sound', run.trans sound'.distinct later⟩

namespace Opens

variable (opens : Opens src package label name chain st schema source located)
include opens

theorem labelled (labelled : src.Label label package) :
    (Site.within schema package label).Labelled src :=
  ⟨(locate_eq_ok opens.locates).1, labelled⟩

theorem next_eq :
    src.next (package, name) = source.referredNames.filterMap (src.target? package) := by
  rw [Sources.next, opens.definition]
  rfl

theorem unmet_met : (package, name) ∉ st.met := by
  simp [State.met, opens.unmet]

theorem traced (inner : Executes src (.within schema package label) chain source.referredNames
      (State.opened src package label name located) followed (.ok (names, st₂)))
    (ends : (conclude src package label name located (source.refilled names)).run st₂ =
      .ok (answer, st₃)) :
    Traced src st ((package, name) :: followed) (some st₃) := by
  refine inner.traced.enter opens ?_
  rintro _ ⟨⟩
  exact ⟨st₂, rfl, (ending_of_conclude ends).met⟩

theorem names_eq (naming : Names src Good) (labelled : src.Label label package)
    (sound₁ : Sound src Good (State.opened src package label name located))
    (inner : Executes src (.within schema package label) chain source.referredNames
      (State.opened src package label name located) followed (.ok (names, st₂))) :
    names = source.referredNames.map (st₂.localName src package) ∧
      Explores src (src.next (package, name)) (State.opened src package label name located) st₂ := by
  obtain ⟨found, -, -, -⟩ := locate_eq_ok opens.locates
  obtain ⟨fuel, run⟩ := inner.exists_run
  have imports := Import.importName_run naming fuel
  rw [opens.next_eq]
  exact ⟨(followAll_run imports found labelled sound₁ run).2.1,
    followAll_explores imports (importName_explores naming fuel) found labelled sound₁ run⟩

theorem round (naming : Names src Good) (labelled : src.Label label package)
    (sound : Sound src Good st)
    (inner : Executes src (.within schema package label) chain source.referredNames
      (State.opened src package label name located) followed (.ok (names, st₂)))
    (ends : (conclude src package label name located (source.refilled names)).run st₂ =
      .ok (answer, st₃)) :
    Round src Good st (State.opened src package label name located) st₂ (package, name) source
      (provisional src.base st label name) answer st₃ := by
  obtain ⟨found, declared, localNames, imported⟩ := locate_eq_ok opens.locates
  obtain ⟨fuel, run⟩ := inner.exists_run
  have ending := ending_of_conclude ends
  have used := State.isUsed_congr imported src.base
  have named := provisional_congr imported src.base
  simp only [State.opened, used, named, imported] at run ending ⊢
  exact round_of_ending naming (Import.importName_run naming fuel) labelled sound opens.unmet found
    declared localNames imported run ending

end Opens

end Rounds

section Discovery

/-- The definitions that are followed are discovered depth first. -/
theorem Executes.discovers {outcome : Except ImportError (List String × State)}
    (h : Executes src site chain references st followed outcome) (labelled : site.Labelled src)
    {result : List String × State} (succeeds : outcome = .ok result) :
    Discovers src.next st.met (references.filterMap (site.target? src)) followed := by
  induction h generalizing result with
  | done => exact .done
  | kept request _ later =>
    obtain ⟨_, rest, -⟩ := Except.map_eq_ok_iff.mp succeeds
    rw [List.filterMap_cons_none (Site.target?_of_nothing request)]
    exact later labelled rest
  | met request noted _ later =>
    obtain ⟨_, rest, -⟩ := Except.map_eq_ok_iff.mp succeeds
    rw [List.filterMap_cons_some (Site.target?_of_definition labelled request).1]
    exact .again (Option.isSome_of_eq_some noted) (later labelled rest)
  | followed request opens inner ends _ below later =>
    obtain ⟨_, rest, -⟩ := Except.map_eq_ok_iff.mp succeeds
    obtain ⟨leads, label⟩ := Site.target?_of_definition labelled request
    have found := below (opens.labelled label) rfl
    have after := later labelled rest
    rw [List.filterMap_cons_some leads, List.cons_append]
    rw [opens.met, Site.target?, ← opens.next_eq] at found
    rw [(opens.traced inner ends).met _ rfl] at after
    refine .first opens.unmet_met found ?_
    convert after using 1
    ext k
    simp only [Set.mem_union, Set.mem_insert_iff, Set.mem_ofPred_eq, List.mem_cons]
    tauto
  | _ => cases succeeds

theorem Resolves.discovers {ds : List TypeDefinition}
    {outcome : Except ImportError (List TypeDefinition × State)}
    (h : Resolves src ds st followed outcome) {result : List TypeDefinition × State}
    (succeeds : outcome = .ok result) :
    Discovers src.next st.met (ds.flatMap fun d => d.referredNames.filterMap src.baseTarget?)
      followed := by
  induction h generalizing result with
  | done => exact .done
  | failed => cases succeeds
  | resolved inner _ later =>
    obtain ⟨_, rest, -⟩ := Except.map_eq_ok_iff.mp succeeds
    have inBase : Site.base.Labelled src := trivial
    have found := inner.discovers inBase rfl
    have after := later rest
    rw [inner.traced.met _ rfl] at after
    exact found.append after

end Discovery

end Jadn.Import
