import Jadn.Proofs.Import.Execution
import Mathlib.Data.Set.Card

/-!
Why imports end, whatever packages refer to.

An import follows the references of a definition by further imports, and packages may refer to one
another and to themselves. It ends because a definition has a local name before its references are
followed: each further import finds fewer definitions without one. So there is always an outcome
without a bound on how deep imports nest, and the importer computes it with the bound that it has.
-/

set_option autoImplicit false

namespace Jadn.Import

open Relation (ReflTransGen)

section Measure

variable {src : Sources} {st st' : State} {package label name : String} {chain : List String}
  {located : State} {schema : Schema} {source : TypeDefinition}

def Sources.declared (src : Sources) : List (String × String) :=
  src.packages.flatMap fun (package, schema) => schema.types.map fun d => (package, d.name)

theorem Sources.mem_declared {key : String × String} (h : (src.definition? key).isSome) :
    key ∈ src.declared := by
  obtain ⟨d, declared⟩ := Option.isSome_iff_exists.mp h
  obtain ⟨schema, found, listed⟩ := Option.bind_eq_some_iff.mp declared
  obtain ⟨hd, named⟩ := mem_of_declared? listed
  refine List.mem_flatMap.mpr ⟨_, mem_of_lookup found, List.mem_map.mpr ⟨d, hd, ?_⟩⟩
  exact Prod.ext rfl named

def Sources.unmet (src : Sources) (st : State) : Finset (String × String) :=
  src.declared.toFinset.filter fun key => st.memo key = none

theorem Sources.card_unmet_lt_fuel (src : Sources) (st : State) : (src.unmet st).card < src.fuel := by
  have all : (src.unmet st).card ≤ src.declared.length :=
    (Finset.card_filter_le _ _).trans (List.toFinset_card_le _)
  have length : src.declared.length = (src.packages.values.flatMap Schema.types).length := by
    simp [Sources.declared, Dict.values, List.length_flatMap, Function.comp_def]
  rw [Sources.fuel, ← length]
  exact Nat.lt_succ_of_le all

theorem Sources.unmet_subset (met : st.met ⊆ st'.met) : src.unmet st' ⊆ src.unmet st := by
  intro key member
  obtain ⟨declared, unmet'⟩ := Finset.mem_filter.mp member
  refine Finset.mem_filter.mpr ⟨declared, Option.not_isSome_iff_eq_none.mp fun known => ?_⟩
  have known' : (st'.memo key).isSome := met known
  rw [unmet'] at known'
  cases known'

theorem Opens.card_unmet_lt (opens : Opens src package label name chain st schema source located)
    (met : (State.opened src package label name located).met ⊆ st'.met) :
    (src.unmet st').card < (src.unmet st).card := by
  rw [opens.met] at met
  refine Finset.card_lt_card ((Finset.ssubset_iff_of_subset
    (Sources.unmet_subset ((Set.subset_insert _ _).trans met))).mpr ⟨(package, name), ?_, ?_⟩)
  · have declared := Sources.mem_declared (Option.isSome_of_eq_some opens.definition)
    exact Finset.mem_filter.mpr ⟨List.mem_toFinset.mpr declared, opens.unmet⟩
  · intro member
    have known : (st'.memo (package, name)).isSome := met (Set.mem_insert _ _)
    rw [(Finset.mem_filter.mp member).2] at known
    cases known

end Measure

section Outcomes

variable {src : Sources} {st : State}

theorem run_mapM_cons_of_ok {α β : Type} {f : α → Resolver β} {x : α} {xs : List α} {y : β}
    {st₁ : State} (first : (f x).run st = .ok (y, st₁)) :
    ((x :: xs).mapM f).run st = Prod.map (y :: ·) id <$> (xs.mapM f).run st₁ := by
  rw [List.mapM_cons, StateT.run_bind, first]
  change StateT.run (xs.mapM f >>= fun ys => pure (y :: ys)) st₁ = _
  rw [bind_pure_comp, StateT.run_map]
  rfl

theorem run_mapM_cons_of_error {α β : Type} {f : α → Resolver β} {x : α} {xs : List α}
    {e : ImportError} (first : (f x).run st = .error e) : ((x :: xs).mapM f).run st = .error e := by
  rw [List.mapM_cons, StateT.run_bind, first]
  rfl

theorem Site.localName_of_request {importer : Importer} {site : Site} {chain : List String}
    {x : String} {request : Request} (asks : site.request src x = request) :
    site.localName src importer chain x = request.answer importer chain x := by
  rw [Site.localName, asks]

theorem Opens.importName_run {package label name : String} {chain : List String} {schema : Schema}
    {source : TypeDefinition} {located : State}
    (opens : Opens src package label name chain st schema source located) (fuel : Nat) :
    (importName src (fuel + 1) package label name chain).run st = (do
      let (names, st₂) ← (source.referredNames.mapM
        ((Site.within schema package label).localName src (importName src fuel) chain)).run
          (State.opened src package label name located)
      (conclude src package label name located (source.refilled names)).run st₂) := by
  rw [importName_run_of_unmet opens.unmet, opens.locates]
  rfl

/-- What the importer computes is the outcome, if its bound exceeds the number of definitions
without a local name. -/
theorem Executes.run_eq {site : Site} {chain references : List String}
    {followed : List (String × String)} {outcome : Except ImportError (List String × State)}
    (h : Executes src site chain references st followed outcome) {fuel : Nat}
    (enough : (src.unmet st).card < fuel) :
    (references.mapM (site.localName src (importName src fuel) chain)).run st = outcome := by
  induction h generalizing fuel with
  | done => rfl
  | kept request _ later =>
    refine (run_mapM_cons_of_ok ?_).trans (congrArg _ (later enough))
    rw [Site.localName_of_request request]
    rfl
  | unknown request =>
    refine run_mapM_cons_of_error ?_
    rw [Site.localName_of_request request]
    rfl
  | met request noted _ later =>
    obtain ⟨fuel, rfl⟩ := Nat.exists_eq_add_one_of_ne_zero (Nat.ne_zero_of_lt enough)
    refine (run_mapM_cons_of_ok ?_).trans (congrArg _ (later enough))
    rw [Site.localName_of_request request]
    exact importName_run_of_met noted
  | absent request unmet missing =>
    obtain ⟨fuel, rfl⟩ := Nat.exists_eq_add_one_of_ne_zero (Nat.ne_zero_of_lt enough)
    refine run_mapM_cons_of_error ?_
    rw [Site.localName_of_request request, Request.answer, importName_run_of_unmet unmet, missing]
    rfl
  | failed request opens _ below =>
    obtain ⟨fuel, rfl⟩ := Nat.exists_eq_add_one_of_ne_zero (Nat.ne_zero_of_lt enough)
    have inner := below ((opens.card_unmet_lt subset_rfl).trans_le (Nat.lt_succ_iff.mp enough))
    refine run_mapM_cons_of_error ?_
    rw [Site.localName_of_request request, Request.answer, opens.importName_run, inner]
    rfl
  | unsettled request opens _ ends below =>
    obtain ⟨fuel, rfl⟩ := Nat.exists_eq_add_one_of_ne_zero (Nat.ne_zero_of_lt enough)
    have inner := below ((opens.card_unmet_lt subset_rfl).trans_le (Nat.lt_succ_iff.mp enough))
    refine run_mapM_cons_of_error ?_
    rw [Site.localName_of_request request, Request.answer, opens.importName_run, inner]
    exact ends
  | followed request opens executed ends _ below later =>
    obtain ⟨fuel, rfl⟩ := Nat.exists_eq_add_one_of_ne_zero (Nat.ne_zero_of_lt enough)
    have inner := below ((opens.card_unmet_lt subset_rfl).trans_le (Nat.lt_succ_iff.mp enough))
    have fewer := opens.card_unmet_lt (executed.met_subset.trans (ending_of_conclude ends).met.1)
    refine (run_mapM_cons_of_ok ?_).trans (congrArg _ (later (fewer.trans enough)))
    rw [Site.localName_of_request request, Request.answer, opens.importName_run, inner]
    exact ends

theorem Resolves.run_eq {ds : List TypeDefinition} {followed : List (String × String)}
    {outcome : Except ImportError (List TypeDefinition × State)}
    (h : Resolves src ds st followed outcome) :
    (ds.mapM fun d : TypeDefinition => d.mapReferences
      (Site.base.localName src (importName src src.fuel) [d.name])).run st = outcome := by
  induction h with
  | done => rfl
  | failed inner =>
    refine run_mapM_cons_of_error ?_
    rw [TypeDefinition.mapReferences_eq, StateT.run_map,
      inner.run_eq (src.card_unmet_lt_fuel _)]
    rfl
  | resolved inner _ later =>
    refine (run_mapM_cons_of_ok ?_).trans (congrArg _ later)
    rw [TypeDefinition.mapReferences_eq, StateT.run_map,
      inner.run_eq (src.card_unmet_lt_fuel _)]
    rfl

/-- References lead to an outcome, however packages refer to one another. The induction is on a
bound for the definitions without a local name, and then on the references. -/
theorem exists_executes_of_lt {bound : Nat} (few : (src.unmet st).card < bound) (site : Site)
    (chain references : List String) :
    ∃ followed outcome, Executes src site chain references st followed outcome := by
  induction bound generalizing site chain references st with
  | zero => cases few
  | succ bound deeper =>
    induction references generalizing st with
    | nil => exact ⟨_, _, .done⟩
    | cons x xs later =>
      cases request : site.request src x with
      | nothing =>
        obtain ⟨followed, outcome, rest⟩ := later few
        exact ⟨_, _, .kept request rest⟩
      | unknown => exact ⟨_, _, .unknown request⟩
      | definition package label name =>
        cases noted : st.memo (package, name) with
        | some known =>
          obtain ⟨followed, outcome, rest⟩ := later few
          exact ⟨_, _, .met request noted rest⟩
        | none =>
          cases located : (locate src package label name (chain ++ [x])).run st with
          | error e => exact ⟨_, _, .absent request noted located⟩
          | ok result =>
            obtain ⟨⟨schema, source⟩, st₁⟩ := result
            have opens : Opens src package label name (chain ++ [x]) st schema source st₁ :=
              ⟨noted, located⟩
            have fewer := (opens.card_unmet_lt subset_rfl).trans_le (Nat.lt_succ_iff.mp few)
            obtain ⟨followed, outcome, inner⟩ :=
              deeper fewer (.within schema package label) (chain ++ [x]) source.referredNames
            cases outcome with
            | error e => exact ⟨_, _, .failed request opens inner⟩
            | ok result =>
              obtain ⟨names, st₂⟩ := result
              cases ends :
                  (conclude src package label name st₁ (source.refilled names)).run st₂ with
              | error e => exact ⟨_, _, .unsettled request opens inner ends⟩
              | ok result =>
                obtain ⟨answer, st₃⟩ := result
                have fewer := opens.card_unmet_lt
                  (inner.met_subset.trans (ending_of_conclude ends).met.1)
                obtain ⟨_, _, rest⟩ := later (fewer.trans few)
                exact ⟨_, _, .followed request opens inner ends rest⟩

theorem exists_resolves (src : Sources) (ds : List TypeDefinition) (st : State) :
    ∃ followed outcome, Resolves src ds st followed outcome := by
  induction ds generalizing st with
  | nil => exact ⟨_, _, .done⟩
  | cons d ds later =>
    obtain ⟨followed, outcome, inner⟩ :=
      exists_executes_of_lt (src.card_unmet_lt_fuel st) .base [d.name] d.referredNames
    cases outcome with
    | error e => exact ⟨_, _, .failed inner⟩
    | ok result =>
      obtain ⟨_, _, rest⟩ := later result.2
      exact ⟨_, _, .resolved inner rest⟩

end Outcomes

section Reaching

variable {src : Sources} {st : State}

/-- What the base refers to in packages, directly or through other definitions of packages. -/
def Sources.Reached (src : Sources) (key : String × String) : Prop :=
  ∃ root ∈ src.roots, ReflTransGen (fun k k' => k' ∈ src.next k) root key

theorem Sources.mem_roots {key : String × String} :
    key ∈ src.roots ↔
      ∃ d ∈ src.base.types, ∃ x ∈ d.referredNames, src.baseTarget? x = some key := by
  simp only [Sources.roots, List.mem_flatMap, List.mem_filterMap]

theorem Sources.mem_next {key key' : String × String} :
    key' ∈ src.next key ↔ ∃ d, src.definition? key = some d ∧
      ∃ x ∈ d.referredNames, src.target? key.1 x = some key' := by
  cases declared : src.definition? key <;> simp [Sources.next, declared]

theorem Sources.Reached.next {key key' : String × String} (reached : src.Reached key)
    (refers : key' ∈ src.next key) : src.Reached key' := by
  obtain ⟨root, listed, steps⟩ := reached
  exact ⟨root, listed, steps.tail refers⟩

theorem reached_of_base {d : TypeDefinition} (listed : d ∈ src.base.types) :
    ∀ x ∈ d.referredNames, ∀ package label name,
      Site.base.request src x = .definition package label name → src.Reached (package, name) := by
  intro x hx package label name request
  have leads := (baseTarget?_of_request request).1
  exact ⟨_, Sources.mem_roots.mpr ⟨d, listed, x, hx, leads⟩, .refl⟩

theorem Opens.reached {package label name : String} {chain : List String} {schema : Schema}
    {source : TypeDefinition} {located : State}
    (opens : Opens src package label name chain st schema source located)
    (reached : src.Reached (package, name)) {x package' label' name' : String}
    (listed : x ∈ source.referredNames)
    (request : (Site.within schema package label).request src x = .definition package' label' name') :
    src.Reached (package', name') := by
  obtain ⟨found, -, -, -⟩ := locate_eq_ok opens.locates
  have leads := (target?_of_request found request).1
  exact reached.next (Sources.mem_next.mpr ⟨source, opens.definition, x, listed, leads⟩)

theorem Executes.reached {site : Site} {chain references : List String}
    {followed : List (String × String)} {outcome : Except ImportError (List String × State)}
    (h : Executes src site chain references st followed outcome)
    (asks : ∀ x ∈ references, ∀ package label name,
      site.request src x = .definition package label name → src.Reached (package, name)) :
    ∀ key ∈ followed, src.Reached key := by
  induction h with
  | done | unknown | absent => simp
  | kept _ _ ih | met _ _ _ ih => exact ih fun y hy => asks y (List.mem_cons_of_mem _ hy)
  | failed request opens _ below | unsettled request opens _ _ below =>
    have own := asks _ List.mem_cons_self _ _ _ request
    have inner := below fun y hy _ _ _ => opens.reached own hy
    exact List.forall_mem_cons.mpr ⟨own, inner⟩
  | followed request opens _ _ _ below later =>
    have own := asks _ List.mem_cons_self _ _ _ request
    have inner := below fun y hy _ _ _ => opens.reached own hy
    have rest := later fun y hy => asks y (List.mem_cons_of_mem _ hy)
    exact List.forall_mem_append.mpr ⟨List.forall_mem_cons.mpr ⟨own, inner⟩, rest⟩

theorem Resolves.reached {ds : List TypeDefinition} {followed : List (String × String)}
    {outcome : Except ImportError (List TypeDefinition × State)}
    (h : Resolves src ds st followed outcome) (listed : ∀ d ∈ ds, d ∈ src.base.types) :
    ∀ key ∈ followed, src.Reached key := by
  induction h with
  | done => simp
  | failed inner => exact inner.reached (reached_of_base (listed _ List.mem_cons_self))
  | resolved inner _ later =>
    have own := inner.reached (reached_of_base (listed _ List.mem_cons_self))
    have rest := later fun d hd => listed d (List.mem_cons_of_mem _ hd)
    exact List.forall_mem_append.mpr ⟨own, rest⟩

end Reaching

section Recursion

variable {src : Sources}

/-- The definitions that are reached and have no local name yet. -/
def Sources.pending (src : Sources) (st : State) : Set (String × String) :=
  {key | src.Reached key ∧ st.memo key = none}

theorem Sources.finite_pending (src : Sources) (st : State) : (src.pending st).Finite := by
  refine (List.finite_toSet (src.roots ++ src.declared.flatMap src.next)).subset ?_
  rintro key ⟨⟨root, listed, steps⟩, -⟩
  rcases Relation.ReflTransGen.cases_tail steps with same | ⟨key', -, refers⟩
  · exact List.mem_append_left _ (same ▸ listed)
  · refine List.mem_append_right _ (List.mem_flatMap.mpr ⟨key', Sources.mem_declared ?_, refers⟩)
    cases declared : src.definition? key' with
    | some d => rfl
    | none => simp [Sources.next, declared] at refers

structure Call where
  package : String
  label : String
  name : String
  chain : List String
  state : State

def Call.key (c : Call) : String × String := (c.package, c.name)

/-- An import makes another one when the references of its definition before some one were
followed, and this one asks for a definition. -/
inductive Calls (src : Sources) : Call → Call → Prop where
  | nested {c : Call} {schema : Schema} {source : TypeDefinition} {located st₂ : State}
      {before after names : List String} {x package label name : String}
      {followed : List (String × String)}
      (opens : Opens src c.package c.label c.name c.chain c.state schema source located)
      (references : source.referredNames = before ++ x :: after)
      (executed : Executes src (.within schema c.package c.label) c.chain before
        (State.opened src c.package c.label c.name located) followed (.ok (names, st₂)))
      (request : (Site.within schema c.package c.label).request src x =
        .definition package label name) :
      Calls src c ⟨package, label, name, c.chain ++ [x], st₂⟩

/-- With each import that another one makes there are fewer definitions without a local name. -/
theorem Calls.pending_lt {c c' : Call} (calls : Calls src c c') (reached : src.Reached c.key) :
    src.Reached c'.key ∧ (src.pending c'.state).ncard < (src.pending c.state).ncard := by
  obtain ⟨opens, references, executed, request⟩ := calls
  refine ⟨opens.reached reached (by simp [references]) request, ?_⟩
  have met := opens.met ▸ executed.met_subset
  refine Set.ncard_lt_ncard ⟨?_, fun back => ?_⟩ (src.finite_pending c.state)
  · rintro key ⟨reached', unmet⟩
    refine ⟨reached', Option.not_isSome_iff_eq_none.mp fun known => ?_⟩
    have known' : (State.memo _ key).isSome := met (Set.mem_insert_of_mem _ known)
    rw [unmet] at known'
    cases known'
  · have own : c.key ∈ src.pending c.state := ⟨reached, opens.unmet⟩
    have known : (State.memo _ c.key).isSome := met (Set.mem_insert _ _)
    rw [(back own).2] at known
    cases known

end Recursion

end Jadn.Import

namespace Jadn.Schema

open Import

/-- The import into a schema ends, whatever packages refer to. Each import that another one makes
finds fewer definitions without a local name. Without a bound on how deep imports nest there is an
outcome, which is what the importer computes. On the way to it no definition is followed twice, and
if there is a result then the packages that were visited are those of the definitions followed, and
no more than the base allows. -/
theorem importPackages_terminates (base : Schema) (packages : List Package) :
    (∀ c c', (sources base packages).Reached c.key → Calls (sources base packages) c c' →
      (sources base packages).Reached c'.key ∧ ((sources base packages).pending c'.state).ncard <
        ((sources base packages).pending c.state).ncard) ∧
    (∃ followed outcome, Resolves (sources base packages) base.types {} followed outcome) ∧
    ∀ followed outcome, Resolves (sources base packages) base.types {} followed outcome →
      (baseTypes (sources base packages)).run {} = outcome ∧ followed.Nodup ∧
      (∀ key ∈ followed, (sources base packages).Reached key ∧
        ((sources base packages).definition? key).isSome) ∧
      ∀ order r, base.importPackages packages order = .ok r →
        ∃ types st, outcome = .ok (types, st) ∧
        st.visited.Nodup ∧ (∀ p, p ∈ st.visited ↔ p ∈ followed.map Prod.fst) ∧
          st.visited.length ≤ base.limits.maxPackages := by
  refine ⟨fun c c' reached calls => calls.pending_lt reached, exists_resolves _ _ _, ?_⟩
  intro followed outcome resolves
  have run : (baseTypes (sources base packages)).run {} = outcome := resolves.run_eq
  have traced := resolves.traced
  have reached := resolves.reached fun d hd => hd
  refine ⟨run, traced.nodup, fun key member => ⟨reached key member, traced.declared key member⟩, ?_⟩
  intro order r h
  obtain ⟨types, st, ran, -⟩ := importPackages_eq_ok h
  rw [run] at ran
  subst ran
  have start : State.Counted (sources base packages) {} := ⟨List.nodup_nil, Nat.zero_le _⟩
  have counted := traced.counted st rfl start
  refine ⟨types, st, rfl, counted.nodup, fun p => ?_, counted.count⟩
  rw [traced.visited st rfl]
  simp

def pointing (name reference : String) (packages : Dict String) : Schema where
  info := { namespaces := { packages } }
  types := [wrapping name "next" reference]
  limits := { maxPackages := 2 }
  extensions := []
  fieldTypes := []
  patterns := []

/-- Two packages whose definitions refer to one another are both followed once. -/
theorem importPackages_terminates_cyclic :
    ∃ (r : Schema) (followed : List (String × String)) (types : List TypeDefinition) (st : State),
      (pointing "Root" "a:Node" [("a", "first")]).importPackages
        [⟨"first", pointing "Node" "b:Node" [("b", "second")]⟩,
          ⟨"second", pointing "Node" "a:Node" [("a", "first")]⟩] .entered = .ok r ∧
      r.typeNames = ["Root", "Node", "B-Node"] ∧ followed.Nodup ∧
      (baseTypes (sources (pointing "Root" "a:Node" [("a", "first")])
        [⟨"first", pointing "Node" "b:Node" [("b", "second")]⟩,
          ⟨"second", pointing "Node" "a:Node" [("a", "first")]⟩])).run {} = .ok (types, st) ∧
      st.visited.Nodup ∧ (∀ p, p ∈ st.visited ↔ p ∈ followed.map Prod.fst) ∧
      st.visited.length ≤ 2 := by
  let base := pointing "Root" "a:Node" [("a", "first")]
  let packages : List Package := [⟨"first", pointing "Node" "b:Node" [("b", "second")]⟩,
    ⟨"second", pointing "Node" "a:Node" [("a", "first")]⟩]
  have names : (base.importPackages packages .entered).toOption.map (·.typeNames) =
      some ["Root", "Node", "B-Node"] := by decide +kernel
  obtain ⟨r, imported, names⟩ := Option.map_eq_some_iff.mp names
  have done := Except.toOption_eq_some_iff.mp imported
  obtain ⟨-, ⟨followed, outcome, resolves⟩, all⟩ := importPackages_terminates base packages
  obtain ⟨run, nodup, -, ends⟩ := all followed outcome resolves
  obtain ⟨types, st, rfl, distinct, visited, count⟩ := ends .entered r done
  exact ⟨r, followed, types, st, done, names, nodup, run, distinct, visited, count⟩

end Jadn.Schema
