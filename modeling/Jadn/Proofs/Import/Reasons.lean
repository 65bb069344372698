import Jadn.Proofs.Import.Rounds

/-!
Why a definition of a package comes to stand under another name than its own.

An import whose name is taken is compared with what holds the name, after its references were
followed. That it goes by another name in the end has one of three reasons: what holds its name is
different from it, nothing holds it yet, or something that it leads to refers to the name that was
provisional for it. Each reason lasts from the end of the import to that of all imports, unless the
definition is on a cycle of references.
-/

set_option autoImplicit false

namespace Jadn.Import

open Relation (ReflTransGen TransGen)

variable {src : Sources} {Good : String → Prop} {st st' : State}

section Leading

def Sources.LeadsTo (src : Sources) : String × String → String × String → Prop :=
  TransGen fun k k' => k' ∈ src.next k

def Sources.Cyclic (src : Sources) (key : String × String) : Prop := src.LeadsTo key key

/-- A definition that was discovered is still being followed when another one is discovered: it
leads there through definitions that were discovered after it. -/
def Sources.Following (src : Sources) (earlier : List (String × String))
    (key key' : String × String) : Prop :=
  ∃ before between last, earlier = before ++ key :: between ∧ key' ∈ src.next last ∧
    ReflTransGen (fun k k' => k' ∈ src.next k ∧ k' ∈ between) key last

namespace Sources.Following

variable {earlier : List (String × String)} {key key' next : String × String}

theorem leadsTo (following : src.Following earlier key key') : src.LeadsTo key key' := by
  obtain ⟨_, _, last, -, refers, steps⟩ := following
  exact .tail' (ReflTransGen.mono (fun _ _ step => step.1) _ _ steps) refers

theorem append (following : src.Following earlier key key') (later : List (String × String)) :
    src.Following (earlier ++ later) key key' := by
  obtain ⟨before, between, last, rfl, refers, steps⟩ := following
  refine ⟨before, between ++ later, last, by simp, refers, ReflTransGen.mono ?_ _ _ steps⟩
  exact fun _ _ step => ⟨step.1, List.mem_append_left _ step.2⟩

theorem start (refers : next ∈ src.next key) : src.Following (earlier ++ [key]) key next :=
  ⟨earlier, [], key, rfl, refers, .refl⟩

theorem enter (following : src.Following earlier key key') (refers : next ∈ src.next key') :
    src.Following (earlier ++ [key']) key next := by
  obtain ⟨before, between, last, rfl, refers', steps⟩ := following
  refine ⟨before, between ++ [key'], key', by simp, refers, .tail ?_ ⟨refers', by simp⟩⟩
  exact ReflTransGen.mono (fun _ _ step => ⟨step.1, List.mem_append_left _ step.2⟩) _ _ steps

end Sources.Following

theorem Sources.LeadsTo.mem {key k : String × String} {after : List (String × String)}
    (leads : src.LeadsTo key k) (start : ∀ k ∈ src.next key, k ∈ after)
    (step : ∀ k ∈ after, ∀ k' ∈ src.next k, k' ∈ after) : k ∈ after := by
  induction leads with
  | single refers => exact start _ refers
  | tail _ refers ih => exact step _ ih _ refers

end Leading

section Reasons

/-- Why a definition goes by a name that is not its own one, given what was discovered before
it. -/
inductive Reason (src : Sources) (earlier : List (String × String)) (st : State)
    (key : String × String) (name : String) : Prop where
  | different {d e : TypeDefinition} (declared : src.definition? key = some d)
      (leads : ∀ x ∈ d.referredNames, st.Leads src key.1 x)
      (held : st.held src.base key.2 = some e)
      (other : (e == (d.replaced (st.localName src key.1)).renamed key.2) = false)
  /-- What was discovered before and is not being followed any more goes by other names. -/
  | unheld (undeclared : src.base.get? key.2 = none)
      (others : ∀ k ∈ earlier, ¬ src.Following earlier k key → ∃ n, st.memo k = some n ∧ n ≠ key.2)
  /-- Something imported since refers to the name. -/
  | referred {k : String × String} {n : String} {e : TypeDefinition} (leads : src.LeadsTo key k)
      (new : k ∉ earlier) (noted : st.memo k = some n) (undeclared : src.base.get? n = none)
      (held : st.held src.base n = some e) (refers : name ∈ e.references)

/-- A reason lasts while the local names stay of what the definition leads to, and of what is not
being followed any more. -/
theorem Reason.mono {earlier : List (String × String)} {key : String × String} {name : String}
    (reason : Reason src earlier st key name) (moving : Set (String × String))
    (memo : ∀ k n, k ∉ moving → st.memo k = some n → st'.memo k = some n)
    (held : ∀ n e, st.held src.base n = some e → st'.held src.base n = some e)
    (below : ∀ k, src.LeadsTo key k → k ∉ moving)
    (apart : ∀ k ∈ earlier, ¬ src.Following earlier k key → k ∉ moving) :
    Reason src earlier st' key name := by
  cases reason with
  | @different d e declared leads existing other =>
    have kept : ∀ x ∈ d.referredNames, st'.Leads src key.1 x ∧
        st'.localName src key.1 x = st.localName src key.1 x := by
      intro x hx
      rcases leads x hx with base | ⟨target, toTarget, met⟩
      · exact ⟨.inl base, by rw [st.localName_of_baseType base, st'.localName_of_baseType base]⟩
      · obtain ⟨n, noted⟩ := Option.isSome_iff_exists.mp met
        have next : target ∈ src.next key := by
          rw [Sources.next, declared]
          exact List.mem_filterMap.mpr ⟨x, hx, toTarget⟩
        have noted' := memo target n (below target (.single next)) noted
        refine ⟨.inr ⟨target, toTarget, by simp [noted']⟩, ?_⟩
        simp [State.localName, toTarget, noted, noted']
    refine .different declared (fun x hx => (kept x hx).1) (held _ _ existing) ?_
    rwa [TypeDefinition.replaced_congr fun x hx => (kept x hx).2]
  | unheld undeclared others =>
    refine .unheld undeclared fun k hk away => ?_
    obtain ⟨n, noted, other⟩ := others k hk away
    exact ⟨n, memo k n (apart k hk away) noted, other⟩
  | referred leads new noted undeclared existing refers =>
    exact .referred leads new (memo _ _ (below _ leads) noted) undeclared (held _ _ existing) refers

/-- For each definition that was followed, while certain other ones were: why it does not go by its
own name, if it does not and is on no cycle. -/
def Explained (src : Sources) (opened : Set (String × String)) :
    (earlier followed : List (String × String)) → State → Prop
  | _, [], _ => True
  | earlier, key :: later, st =>
    (∀ o ∈ opened, src.Following earlier o key) ∧
      (¬ src.Cyclic key → ∀ name, st.memo key = some name → name ≠ key.2 →
        Reason src earlier st key name) ∧ Explained src opened (earlier ++ [key]) later st

namespace Explained

variable {opened : Set (String × String)} {earlier followed later : List (String × String)}

theorem append_iff : Explained src opened earlier (followed ++ later) st ↔
    Explained src opened earlier followed st ∧
      Explained src opened (earlier ++ followed) later st := by
  induction followed generalizing earlier with
  | nil => simp [Explained]
  | cons key followed ih =>
    rw [List.cons_append, Explained, Explained, ih, ← List.append_cons, and_assoc, and_assoc]

theorem anti {opened' : Set (String × String)} (explained : Explained src opened earlier followed st)
    (fewer : opened' ⊆ opened) : Explained src opened' earlier followed st := by
  induction followed generalizing earlier with
  | nil => trivial
  | cons key followed ih =>
    exact ⟨fun o ho => explained.1 o (fewer ho), explained.2.1, ih explained.2.2⟩

theorem mono (explained : Explained src opened earlier followed st) (moving : Set (String × String))
    (inside : moving ⊆ opened)
    (memo : ∀ k n, k ∉ moving → st.memo k = some n → st'.memo k = some n)
    (held : ∀ n e, st.held src.base n = some e → st'.held src.base n = some e)
    (settled : ∀ k ∈ followed, k ∈ st.met ∧ k ∉ moving) :
    Explained src opened earlier followed st' := by
  induction followed generalizing earlier with
  | nil => trivial
  | cons key followed ih =>
    obtain ⟨following, reason, rest⟩ := explained
    refine ⟨following, fun acyclic name noted' other => ?_,
      ih rest fun k hk => settled k (List.mem_cons_of_mem _ hk)⟩
    obtain ⟨met, still⟩ := settled key List.mem_cons_self
    obtain ⟨n, noted⟩ := Option.isSome_iff_exists.mp met
    have same := (memo key n still noted).symm.trans noted'
    obtain rfl := Option.some.inj same
    -- What is being followed leads to the definition, which leads to it only on a cycle.
    refine (reason acyclic n noted other).mono moving memo held (fun k below moves => ?_)
      fun k _ away moves => away (following k (inside moves))
    exact acyclic (below.trans (following k (inside moves)).leadsTo)

theorem grows (explained : Explained src opened earlier followed st) (grows : Grows st st')
    (met : ∀ k ∈ followed, k ∈ st.met) : Explained src opened earlier followed st' :=
  explained.mono ∅ (Set.empty_subset _) (fun k n _ => grows.memo k n) (fun _ _ => grows.held)
    fun k hk => ⟨met k hk, Set.notMem_empty k⟩

theorem reason (explained : Explained src opened earlier followed st) {key : String × String}
    (hkey : key ∈ followed) : ∃ before after, followed = before ++ key :: after ∧
      (¬ src.Cyclic key → ∀ name, st.memo key = some name → name ≠ key.2 →
        Reason src (earlier ++ before) st key name) := by
  obtain ⟨before, after, rfl⟩ := List.append_of_mem hkey
  exact ⟨before, after, rfl, (append_iff.mp explained).2.2.1⟩

end Explained

end Reasons

section Holding

variable {opened : Set (String × String)}

def State.Finished (src : Sources) (opened : Set (String × String)) (st : State) : Prop :=
  ∀ k n, k ∉ opened → st.memo k = some n → ∃ e, st.held src.base n = some e

theorem Run.finished {roots : String × String → Prop} (run : Run src Good roots st st')
    (finished : st.Finished src opened) : st'.Finished src opened := by
  intro k n away noted
  cases before : st.memo k with
  | some n' =>
    have kept := (run.grows.memo k n' before).symm.trans noted
    obtain rfl := Option.some.inj kept
    obtain ⟨e, held⟩ := finished k n' away before
    exact ⟨e, run.grows.held held⟩
  | none =>
    obtain ⟨d, e, g, -, held, -⟩ := run.settled k n before noted
    exact ⟨e, held⟩

namespace Round

variable {st₁ st₂ : State} {key : String × String} {source : TypeDefinition}
  {provisional result : String}
  (round : Round src Good st st₁ st₂ key source provisional result st')
include round

theorem held_entered {n : String} {e : TypeDefinition} (h : st.held src.base n = some e) :
    st₁.held src.base n = some e := by
  rw [State.held_eq_some_iff] at h ⊢
  refine h.imp_right fun ⟨undeclared, found⟩ => ⟨undeclared, ?_⟩
  rw [round.imported₁, List.lookup_append, found, Option.some_or]

theorem held_followed {n : String} {e : TypeDefinition} (h : st.held src.base n = some e) :
    st₂.held src.base n = some e :=
  round.run.grows.held (round.held_entered h)

theorem finished_entered (finished : st.Finished src opened) : st₁.Finished src (insert key opened) := by
  intro k n away noted
  rw [Set.mem_insert_iff, not_or] at away
  obtain ⟨e, held⟩ := finished k n away.2 ((round.memo₁_of_ne away.1).symm.trans noted)
  exact ⟨e, round.held_entered held⟩

end Round

end Holding

section Ends

variable {package label name answer : String} {chain names : List String} {schema : Schema}
  {source : TypeDefinition} {located st₂ st₃ : State} {followed : List (String × String)}

/-- An import whose definition goes by another name than its own one was compared in vain with what
holds this one, or something imported since refers to the other name. -/
theorem unfolded_of_conclude
    (ends : (conclude src package label name located (source.refilled names)).run st₂ = .ok (answer, st₃))
    (other : answer ≠ name) : answer = provisional src.base located label name ∧
      (st₂.refersTo located.imported.length answer = true ∨
        st₂.holdsSame src.base name ((source.refilled names).renamed answer) = false) := by
  unfold conclude settle at ends
  split at ends
  · simp only [StateT.run_bind, StateT.run_get, pure_bind] at ends
    split at ends
    · cases ends
      exact absurd rfl other
    · next unfolded =>
      rw [Bool.and_eq_true, not_and_or, Bool.not_eq_true', Bool.not_eq_false,
        Bool.not_eq_true] at unfolded
      split at ends
      · cases ends
        exact ⟨rfl, unfolded⟩
      · split at ends
        · cases ends
          exact ⟨rfl, unfolded⟩
        · cases ends
  · next free =>
    cases ends
    exact absurd (by simp [provisional, free]) other

end Ends

section Explaining

variable {opened : Set (String × String)} {earlier : List (String × String)}

namespace Round

variable {st₁ st₂ : State} {key : String × String} {source : TypeDefinition}
  {provisional result name : String}
  (round : Round src Good st st₁ st₂ key source provisional result st')
include round

/-- What was imported since a definition was entered is copied from what the definition leads to. -/
theorem referred (met : st.met = {k | k ∈ earlier}) (inner : Explores src (src.next key) st₁ st₂)
    (refers : st₂.refersTo st.imported.length name = true) : Reason src earlier st₂ key name := by
  obtain ⟨found, copies, explored⟩ := inner
  rw [State.refersTo, explored.imported, round.imported₁, List.append_assoc, Dict.values,
    List.map_append, List.drop_left' (by simp)] at refers
  obtain ⟨o, listed, refers⟩ := List.any_eq_true.mp refers
  obtain ⟨⟨n, o⟩, entry, rfl⟩ := List.mem_map.mp listed
  rcases List.mem_append.mp entry with own | copied
  · -- The definition itself is not finished.
    have unfinished : o = none := by
      split at own
      · cases own
      · simp_all
    simp [unfinished] at refers
  · simp only [finished, List.map_map, List.mem_map, Function.comp_apply, Prod.mk.injEq] at copied
    obtain ⟨c, hc, rfl, rfl⟩ := copied
    have discovered := explored.order.subset (List.mem_map_of_mem hc)
    obtain ⟨root, next, steps⟩ := explored.discovers.reached c.1 discovered
    have new : c.1 ∉ earlier := by
      have fresh := explored.discovers.fresh c.1 discovered
      rw [round.met₁, Set.mem_insert_iff, not_or, met] at fresh
      exact fresh.2
    have listed : (c.2.name, some c.2) ∈ st₂.imported := by
      rw [explored.imported]
      exact List.mem_append_right _ (List.mem_map.mpr ⟨_, List.mem_map_of_mem hc, rfl⟩)
    have undeclared := round.sound₂.apart c.2.name (List.mem_map_of_mem listed)
    refine .referred (.head' next steps) new (explored.copied c hc).2 undeclared
      (State.held_eq_some_iff.mpr (.inr ⟨undeclared, lookup_of_mem round.sound₂.distinct listed⟩)) ?_
    simpa using refers

/-- What holds the name of a definition is different from it, or nothing holds it yet. -/
theorem different (met : st.met = {k | k ∈ earlier}) (finished : st.Finished src opened)
    (following : ∀ o ∈ opened, src.Following earlier o key)
    (other : st₂.holdsSame src.base key.2
      ((source.replaced (st₂.localName src key.1)).renamed provisional) = false) :
    Reason src earlier st₂ key name := by
  cases held : st₂.held src.base key.2 with
  | some e =>
    refine .different round.declared round.leads held ?_
    by_contra same
    rw [Bool.not_eq_false] at same
    exact absurd (State.holdsSame_iff.mpr ⟨e, held, same⟩) (Bool.eq_false_iff.mp other)
  | none =>
    refine .unheld (Option.or_eq_none_iff.mp held).1 fun k hk away => ?_
    have known : k ∈ st.met := met ▸ hk
    obtain ⟨n, noted⟩ := Option.isSome_iff_exists.mp known
    refine ⟨n, ?_, ?_⟩
    · exact round.run.grows.memo k n ((round.memo₁_of_ne (round.ne_key noted)).trans noted)
    · rintro rfl
      obtain ⟨e, existing⟩ := finished k key.2 (fun still => away (following k still)) noted
      rw [round.held_followed existing] at held
      cases held

theorem reason (met : st.met = {k | k ∈ earlier}) (acyclic : ¬ src.Cyclic key)
    (reason : Reason src earlier st₂ key name) : Reason src earlier st' key name := by
  refine reason.mono {key} (fun k n other noted => ?_) (fun _ _ => round.ended.held _ _) ?_ ?_
  · exact (round.memo_of_ne other).trans noted
  · rintro k below rfl
    exact acyclic below
  · rintro k hk - rfl
    have known : k ∈ st.met := met ▸ hk
    simp [State.met, round.unmet] at known

end Round

variable {package label name answer : String} {chain references names : List String}
  {schema : Schema} {source : TypeDefinition} {located st₂ st₃ : State} {site : Site}
  {followed : List (String × String)}

theorem Opens.met_append (opens : Opens src package label name chain st schema source located)
    (met : st.met = {k | k ∈ earlier}) :
    (State.opened src package label name located).met = {k | k ∈ earlier ++ [(package, name)]} := by
  rw [opens.met, met]
  ext k
  simp [or_comm]

theorem Traced.met_append (traced : Traced src st followed (some st'))
    (met : st.met = {k | k ∈ earlier}) : st'.met = {k | k ∈ earlier ++ followed} := by
  rw [traced.met st' rfl, met]
  ext k
  simp

theorem Opens.explained (opens : Opens src package label name chain st schema source located)
    (naming : Names src Good) (labelled : src.Label label package) (sound : Sound src Good st)
    (met : st.met = {k | k ∈ earlier}) (finished : st.Finished src opened)
    (following : ∀ o ∈ opened, src.Following earlier o (package, name))
    (inner : Executes src (.within schema package label) chain source.referredNames
      (State.opened src package label name located) followed (.ok (names, st₂)))
    (ends : (conclude src package label name located (source.refilled names)).run st₂ = .ok (answer, st₃))
    (below : Explained src (insert (package, name) opened) (earlier ++ [(package, name)])
      followed st₂) :
    Explained src opened earlier ((package, name) :: followed) st₃ := by
  have round := opens.round naming labelled sound inner ends
  obtain ⟨filled, explores⟩ := opens.names_eq naming labelled round.sound₁ inner
  refine ⟨following, fun acyclic n noted other => ?_, ?_⟩
  · obtain rfl := Option.some.inj (round.memo_key.symm.trans noted)
    refine round.reason met acyclic ?_
    obtain ⟨stands, refers | unequal⟩ := unfolded_of_conclude ends other
    · rw [congrArg List.length (locate_eq_ok opens.locates).2.2.2] at refers
      exact round.referred met explores refers
    · refine round.different met finished following ?_
      rw [filled, TypeDefinition.refilled_map] at unequal
      exact unequal
  · -- Of what was met, only the definition itself may get another local name when its import ends.
    refine (below.mono {(package, name)} (by simp) (fun k n other noted => ?_)
      (fun _ _ => round.ended.held _ _) fun k hk => ⟨?_, ?_⟩).anti (Set.subset_insert _ _)
    · exact (round.memo_of_ne other).trans noted
    · rw [inner.traced.met _ rfl]
      exact .inr hk
    · rintro rfl
      exact inner.traced.fresh _ hk (opens.met ▸ Set.mem_insert _ _)

/-- Each definition that is followed goes by its own name, or there is a reason why it does not. -/
theorem Executes.explained {outcome : Except ImportError (List String × State)}
    (h : Executes src site chain references st followed outcome) (naming : Names src Good)
    (labelled : site.Labelled src) (sound : Sound src Good st) (met : st.met = {k | k ∈ earlier})
    (finished : st.Finished src opened)
    (following : ∀ x ∈ references, ∀ key, site.target? src x = some key →
      ∀ o ∈ opened, src.Following earlier o key)
    {result : List String × State} (succeeds : outcome = .ok result) :
    Explained src opened earlier followed result.2 := by
  induction h generalizing opened earlier result with
  | done => trivial
  | kept _ _ later | met _ _ _ later =>
    obtain ⟨after, rest, rfl⟩ := Except.map_eq_ok_iff.mp succeeds
    have remaining :=
      later labelled sound met finished (fun x hx => following x (List.mem_cons_of_mem _ hx)) rest
    exact remaining
  | @followed _ _ _ _ xs _ _ _ _ package label name _ source _ _ _ _ request opens inner ends rest'
      below later =>
    obtain ⟨after, rest, rfl⟩ := Except.map_eq_ok_iff.mp succeeds
    subst rest
    obtain ⟨leads, label⟩ := Site.target?_of_definition labelled request
    have round := opens.round naming label sound inner ends
    have above := following _ List.mem_cons_self _ leads
    have deeper : ∀ x ∈ source.referredNames, ∀ key, src.target? package x = some key →
        ∀ o ∈ insert (package, name) opened,
          src.Following (earlier ++ [(package, name)]) o key := by
      intro x hx key target o ho
      have refers : key ∈ src.next (package, name) := by
        rw [opens.next_eq]
        exact List.mem_filterMap.mpr ⟨x, hx, target⟩
      rcases ho with rfl | outer
      · exact .start refers
      · exact (above o outer).enter refers
    -- What is discovered below is explained with the definition among those being followed.
    have own := opens.explained naming label sound met finished above inner ends
      (below (opens.labelled label) round.sound₁ (opens.met_append met)
        (round.finished_entered finished) deeper rfl)
    have met₃ := (opens.traced inner ends).met_append met
    have remaining := later labelled round.soundAfter met₃ (round.runAfter.finished finished)
      (fun x hx key target o ho =>
        (following x (List.mem_cons_of_mem _ hx) key target o ho).append _) rfl
    refine Explained.append_iff.mpr ⟨own.grows ?_ fun k hk => ?_, remaining⟩
    · exact (rest'.run naming labelled round.soundAfter).2.grows
    · rw [met₃]
      exact List.mem_append_right _ hk
  | _ => cases succeeds

theorem Resolves.grows {ds : List TypeDefinition}
    {outcome : Except ImportError (List TypeDefinition × State)}
    (h : Resolves src ds st followed outcome) (naming : Names src Good) (sound : Sound src Good st)
    {result : List TypeDefinition × State} (succeeds : outcome = .ok result) :
    Grows st result.2 := by
  induction h generalizing result with
  | done =>
    cases succeeds
    exact .refl _
  | failed => cases succeeds
  | resolved inner _ later =>
    obtain ⟨after, rest, rfl⟩ := Except.map_eq_ok_iff.mp succeeds
    have inBase : Site.base.Labelled src := trivial
    obtain ⟨sound₁, run⟩ := inner.run naming inBase sound
    have grows := later sound₁ rest
    exact run.grows.trans grows

theorem Resolves.explained {ds : List TypeDefinition}
    {outcome : Except ImportError (List TypeDefinition × State)}
    (h : Resolves src ds st followed outcome) (naming : Names src Good) (sound : Sound src Good st)
    (met : st.met = {k | k ∈ earlier}) (finished : st.Finished src ∅)
    {result : List TypeDefinition × State} (succeeds : outcome = .ok result) :
    Explained src ∅ earlier followed result.2 := by
  induction h generalizing earlier result with
  | done => trivial
  | failed => cases succeeds
  | resolved inner resolves later =>
    obtain ⟨after, rest, rfl⟩ := Except.map_eq_ok_iff.mp succeeds
    have inBase : Site.base.Labelled src := trivial
    obtain ⟨sound₁, run⟩ := inner.run naming inBase sound
    have own := inner.explained naming inBase sound met finished (fun _ _ _ _ _ => False.elim) rfl
    have met₁ := Traced.met_append inner.traced met
    have grows := resolves.grows naming sound₁ rest
    have remaining := later sound₁ met₁ (run.finished finished) rest
    refine Explained.append_iff.mpr ⟨own.grows grows fun k hk => ?_, remaining⟩
    rw [met₁]
    exact List.mem_append_right _ hk

end Explaining

end Jadn.Import
