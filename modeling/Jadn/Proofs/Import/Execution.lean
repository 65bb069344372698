import Jadn.Proofs.Import.Discovery

/-!
What an import does, without a bound on how deep imports nest.

`Executes` follows references in turn, each by an import of its own if it asks for a definition
that has no local name yet. It says which definitions are followed on the way and what it comes to,
errors included: each definition is followed for the first time and has a local name from then on,
and the packages visited are those of the definitions followed.
-/

set_option autoImplicit false

namespace Jadn.Import

variable {src : Sources}

section Execution

structure Opens (src : Sources) (package label name : String) (chain : List String) (st : State)
    (schema : Schema) (source : TypeDefinition) (located : State) : Prop where
  unmet : st.memo (package, name) = none
  locates : (locate src package label name chain).run st = .ok ((schema, source), located)

/-- What it comes to that references are followed in turn, and which definitions are followed on
the way. Imports may nest in one another as deep as they like. -/
inductive Executes (src : Sources) : Site → (chain references : List String) → State →
    (followed : List (String × String)) → Except ImportError (List String × State) → Prop where
  | done {site : Site} {chain : List String} {st : State} :
      Executes src site chain [] st [] (.ok ([], st))
  | kept {site : Site} {chain : List String} {x : String} {xs : List String} {st : State}
      {followed : List (String × String)} {outcome : Except ImportError (List String × State)}
      (request : site.request src x = .nothing)
      (rest : Executes src site chain xs st followed outcome) :
      Executes src site chain (x :: xs) st followed (Prod.map (x :: ·) id <$> outcome)
  | unknown {site : Site} {chain : List String} {x : String} {xs : List String} {st : State}
      (request : site.request src x = .unknown) :
      Executes src site chain (x :: xs) st [] (.error (.unresolved x chain))
  | met {site : Site} {chain : List String} {x : String} {xs : List String} {st : State}
      {followed : List (String × String)} {outcome : Except ImportError (List String × State)}
      {package label name known : String} (request : site.request src x = .definition package label name)
      (noted : st.memo (package, name) = some known)
      (rest : Executes src site chain xs st followed outcome) :
      Executes src site chain (x :: xs) st followed (Prod.map (known :: ·) id <$> outcome)
  | absent {site : Site} {chain : List String} {x : String} {xs : List String} {st : State}
      {package label name : String} {e : ImportError}
      (request : site.request src x = .definition package label name)
      (unmet : st.memo (package, name) = none)
      (missing : (locate src package label name (chain ++ [x])).run st = .error e) :
      Executes src site chain (x :: xs) st [] (.error e)
  | failed {site : Site} {chain : List String} {x : String} {xs : List String} {st located : State}
      {package label name : String} {schema : Schema} {source : TypeDefinition}
      {followed : List (String × String)} {e : ImportError}
      (request : site.request src x = .definition package label name)
      (opens : Opens src package label name (chain ++ [x]) st schema source located)
      (inner : Executes src (.within schema package label) (chain ++ [x]) source.referredNames
        (State.opened src package label name located) followed (.error e)) :
      Executes src site chain (x :: xs) st ((package, name) :: followed) (.error e)
  | unsettled {site : Site} {chain : List String} {x : String} {xs : List String}
      {st located st₂ : State} {package label name : String} {schema : Schema}
      {source : TypeDefinition} {names : List String} {followed : List (String × String)}
      {e : ImportError} (request : site.request src x = .definition package label name)
      (opens : Opens src package label name (chain ++ [x]) st schema source located)
      (inner : Executes src (.within schema package label) (chain ++ [x]) source.referredNames
        (State.opened src package label name located) followed (.ok (names, st₂)))
      (ends : (conclude src package label name located (source.refilled names)).run st₂ =
        .error e) :
      Executes src site chain (x :: xs) st ((package, name) :: followed) (.error e)
  | followed {site : Site} {chain : List String} {x answer : String} {xs : List String}
      {st located st₂ st₃ : State} {package label name : String} {schema : Schema}
      {source : TypeDefinition} {names : List String} {followed later : List (String × String)}
      {outcome : Except ImportError (List String × State)}
      (request : site.request src x = .definition package label name)
      (opens : Opens src package label name (chain ++ [x]) st schema source located)
      (inner : Executes src (.within schema package label) (chain ++ [x]) source.referredNames
        (State.opened src package label name located) followed (.ok (names, st₂)))
      (ends : (conclude src package label name located (source.refilled names)).run st₂ =
        .ok (answer, st₃))
      (rest : Executes src site chain xs st₃ later outcome) :
      Executes src site chain (x :: xs) st ((package, name) :: followed ++ later)
        (Prod.map (answer :: ·) id <$> outcome)

/-- What it comes to that the references of definitions of the base are followed in turn. -/
inductive Resolves (src : Sources) : List TypeDefinition → State →
    (followed : List (String × String)) → Except ImportError (List TypeDefinition × State) → Prop where
  | done {st : State} : Resolves src [] st [] (.ok ([], st))
  | failed {d : TypeDefinition} {ds : List TypeDefinition} {st : State}
      {followed : List (String × String)} {e : ImportError}
      (inner : Executes src .base [d.name] d.referredNames st followed (.error e)) :
      Resolves src (d :: ds) st followed (.error e)
  | resolved {d : TypeDefinition} {ds : List TypeDefinition} {st st₁ : State} {names : List String}
      {followed later : List (String × String)}
      {outcome : Except ImportError (List TypeDefinition × State)}
      (inner : Executes src .base [d.name] d.referredNames st followed (.ok (names, st₁)))
      (rest : Resolves src ds st₁ later outcome) :
      Resolves src (d :: ds) st (followed ++ later)
        (Prod.map (d.refilled names :: ·) id <$> outcome)

end Execution

section Tracing

variable {src : Sources} {package label name : String} {chain : List String}
  {st st' located st₂ st₃ : State} {schema : Schema} {source : TypeDefinition}

structure State.Counted (src : Sources) (st : State) : Prop where
  nodup : st.visited.Nodup
  count : st.visited.length ≤ src.base.limits.maxPackages

structure Notes (src : Sources) (package : String) (st st' : State) : Prop where
  mem_iff : ∀ p, p ∈ st'.visited ↔ p ∈ st.visited ∨ p = package
  counted : st.Counted src → st'.Counted src

theorem notes_of_visit (h : (visit src package).run st = .ok ((), st')) :
    Notes src package st st' := by
  simp only [visit, StateT.run_bind, StateT.run_get, pure_bind] at h
  split at h
  · next known =>
    cases h
    refine ⟨fun p => ⟨.inl, ?_⟩, id⟩
    rintro (before | rfl)
    · exact before
    · exact known
  · next new =>
    simp only [StateT.run_bind, StateT.run_set, pure_bind] at h
    split at h
    · next fits =>
      cases h
      have count := (Limits.check_eq_ok_iff _ _ _).mp fits
      refine ⟨fun p => ?_, fun counted => ⟨List.nodup_cons.mpr ⟨new, counted.nodup⟩, count⟩⟩
      rw [List.mem_cons, or_comm]
    · cases h

theorem notes_of_locate (h : (locate src package label name chain).run st =
    .ok ((schema, source), st')) : Notes src package st st' := by
  unfold locate at h
  split at h
  · rw [StateT.run_bind, Except.bind_eq_ok_iff] at h
    obtain ⟨⟨⟨⟩, visited⟩, visit, h⟩ := h
    split at h
    · cases h
      exact notes_of_visit visit
    · cases h
  · cases h

theorem State.met_congr (same : st'.localNames = st.localNames) : st'.met = st.met := by
  simp only [State.met, State.memo, same]

theorem State.met_setLocalName (st : State) (key : String × String) (name : String) :
    (st.setLocalName key name).met = insert key st.met := by
  ext k
  simp only [State.met, Set.mem_ofPred_eq, Set.mem_insert_iff, State.memo_setLocalName]
  by_cases same : k = key <;> simp [same]

theorem State.met_entered (st : State) (key : String × String) (name : String) (isFresh : Bool) :
    (st.entered key name isFresh).met = insert key st.met := by
  cases isFresh <;> exact st.met_setLocalName key name

theorem State.entered_visited (st : State) (key : String × String) (name : String)
    (isFresh : Bool) : (st.entered key name isFresh).visited = st.visited := by
  cases isFresh <;> rfl

namespace Opens

variable (opens : Opens src package label name chain st schema source located)
include opens

theorem definition : src.definition? (package, name) = some source := by
  obtain ⟨found, declared, -, -⟩ := locate_eq_ok opens.locates
  simp [Sources.definition?, found, declared]

theorem met : (State.opened src package label name located).met = insert (package, name) st.met := by
  obtain ⟨-, -, localNames, -⟩ := locate_eq_ok opens.locates
  rw [State.opened, State.met_entered, State.met_congr localNames]

theorem notes : Notes src package st (State.opened src package label name located) := by
  have notes := notes_of_locate opens.locates
  have same : (State.opened src package label name located).visited = located.visited :=
    State.entered_visited _ _ _ _
  refine ⟨fun p => same ▸ notes.mem_iff p, fun counted => ?_⟩
  exact ⟨same ▸ (notes.counted counted).nodup, same ▸ (notes.counted counted).count⟩

end Opens

/-- Only the definition whose import ends may get a local name by that. -/
theorem Ending.met {base : Schema} {key : String × String} {provisional result : String}
    {isFresh : Bool} {start : Nat} {d : TypeDefinition}
    (h : Ending base key provisional isFresh start d st result st') :
    st.met ⊆ st'.met ∧ st'.met ⊆ insert key st.met ∧ st'.visited = st.visited := by
  have noted : ∀ s : State, s.localNames = st.localNames → s.visited = st.visited →
      st.met ⊆ (s.setLocalName key result).met ∧
        (s.setLocalName key result).met ⊆ insert key st.met ∧
          (s.setLocalName key result).visited = st.visited := by
    intro s localNames visited
    rw [s.met_setLocalName, State.met_congr localNames]
    exact ⟨Set.subset_insert _ _, subset_rfl, visited⟩
  cases h with
  | dropped => cases isFresh <;> exact noted _ rfl rfl
  | kept => exact ⟨subset_rfl, Set.subset_insert _ _, rfl⟩
  | found => exact noted st rfl rfl

/-- What is known of the definitions that are followed from a state on, and of the state after
them, if there is one. -/
structure Traced (src : Sources) (st : State) (followed : List (String × String))
    (after : Option State) : Prop where
  nodup : followed.Nodup
  declared : ∀ key ∈ followed, (src.definition? key).isSome
  fresh : ∀ key ∈ followed, key ∉ st.met
  met : ∀ st' ∈ after, st'.met = st.met ∪ {key | key ∈ followed}
  visited : ∀ st' ∈ after, ∀ p, p ∈ st'.visited ↔ p ∈ st.visited ∨ p ∈ followed.map Prod.fst
  counted : ∀ st' ∈ after, st.Counted src → st'.Counted src

namespace Traced

variable {followed later : List (String × String)} {after : Option State}

theorem nil : Traced src st [] (some st) := by
  refine ⟨List.nodup_nil, by simp, by simp, ?_, ?_, ?_⟩ <;> rintro _ ⟨⟩ <;> simp

theorem stopped : Traced src st [] none := by
  constructor <;> simp

theorem append (first : Traced src st followed (some st₂)) (rest : Traced src st₂ later after) :
    Traced src st (followed ++ later) after := by
  have met := first.met st₂ rfl
  refine ⟨List.nodup_append.mpr ⟨first.nodup, rest.nodup, ?_⟩, ?_, ?_, ?_, ?_, ?_⟩
  · rintro key early _ late rfl
    exact rest.fresh key late (met ▸ Or.inr early)
  · intro key member
    exact (List.mem_append.mp member).elim (first.declared key) (rest.declared key)
  · intro key member known
    rcases List.mem_append.mp member with early | late
    · exact first.fresh key early known
    · exact rest.fresh key late (met ▸ Or.inl known)
  · intro st' reached
    rw [rest.met st' reached, met]
    ext key
    simp [or_assoc]
  · intro st' reached p
    rw [rest.visited st' reached, first.visited st₂ rfl, List.map_append, List.mem_append, or_assoc]
  · exact fun st' reached counted => rest.counted st' reached (first.counted st₂ rfl counted)

/-- A definition is followed before those that its references lead to. -/
theorem enter {inner : Option State} (opens : Opens src package label name chain st schema source located)
    (below : Traced src (State.opened src package label name located) followed inner)
    (ends : ∀ st₃ ∈ after, ∃ st₂ ∈ inner, st₂.met ⊆ st₃.met ∧
      st₃.met ⊆ insert (package, name) st₂.met ∧ st₃.visited = st₂.visited) :
    Traced src st ((package, name) :: followed) after := by
  have opened := opens.met
  have notes := opens.notes
  have apart : ∀ key ∈ followed, key ≠ (package, name) ∧ key ∉ st.met := by
    intro key member
    have fresh := below.fresh key member
    rw [opened, Set.mem_insert_iff, not_or] at fresh
    exact fresh
  refine ⟨List.nodup_cons.mpr ⟨fun member => (apart _ member).1 rfl, below.nodup⟩, ?_, ?_, ?_, ?_, ?_⟩
  · intro key member
    rcases List.mem_cons.mp member with rfl | inside
    · exact Option.isSome_of_eq_some opens.definition
    · exact below.declared key inside
  · intro key member known
    rcases List.mem_cons.mp member with rfl | inside
    · rw [State.met, Set.mem_ofPred_eq, opens.unmet] at known
      cases known
    · exact (apart key inside).2 known
  · intro st₃ reached
    obtain ⟨st₂, reached₂, grows, within', -⟩ := ends st₃ reached
    have met₂ := below.met st₂ reached₂
    rw [opened] at met₂
    have same : st₃.met = st₂.met := by
      refine subset_antisymm (within'.trans ?_) grows
      rw [met₂]
      exact Set.insert_subset (Or.inl (Set.mem_insert _ _)) subset_rfl
    rw [same, met₂]
    ext key
    simp only [Set.mem_union, Set.mem_insert_iff, Set.mem_ofPred_eq, List.mem_cons]
    tauto
  · intro st₃ reached p
    obtain ⟨st₂, reached₂, -, -, visited⟩ := ends st₃ reached
    rw [visited, below.visited st₂ reached₂, notes.mem_iff, List.map_cons, List.mem_cons, or_assoc]
  · intro st₃ reached counted
    obtain ⟨st₂, reached₂, -, -, visited⟩ := ends st₃ reached
    have counted₂ := below.counted st₂ reached₂ (notes.counted counted)
    exact ⟨visited ▸ counted₂.nodup, visited ▸ counted₂.count⟩

end Traced

def stateAfter {α : Type} (outcome : Except ImportError (α × State)) : Option State :=
  outcome.toOption.map Prod.snd

theorem stateAfter_map {α β : Type} (f : α → β) (outcome : Except ImportError (α × State)) :
    stateAfter (Prod.map f id <$> outcome) = stateAfter outcome := by
  cases outcome <;> rfl

theorem Executes.traced {site : Site} {references : List String}
    {followed : List (String × String)} {outcome : Except ImportError (List String × State)}
    (h : Executes src site chain references st followed outcome) :
    Traced src st followed (stateAfter outcome) := by
  induction h with
  | done => exact .nil
  | kept _ _ ih | met _ _ _ ih =>
    rw [stateAfter_map]
    exact ih
  | unknown => exact .stopped
  | absent => exact .stopped
  | failed _ opens _ below => exact below.enter opens (by rintro _ ⟨⟩)
  | unsettled _ opens _ _ below => exact below.enter opens (by rintro _ ⟨⟩)
  | followed _ opens _ ends _ below later =>
    rw [stateAfter_map]
    refine (below.enter opens ?_).append later
    rintro _ ⟨⟩
    exact ⟨_, rfl, (ending_of_conclude ends).met⟩

theorem Executes.met_subset {site : Site} {references names : List String}
    {followed : List (String × String)}
    (h : Executes src site chain references st followed (.ok (names, st'))) : st.met ⊆ st'.met := by
  rw [h.traced.met st' rfl]
  exact Set.subset_union_left

theorem Resolves.traced {ds : List TypeDefinition} {followed : List (String × String)}
    {outcome : Except ImportError (List TypeDefinition × State)}
    (h : Resolves src ds st followed outcome) : Traced src st followed (stateAfter outcome) := by
  induction h with
  | done => exact .nil
  | failed inner => exact inner.traced
  | resolved inner _ later =>
    rw [stateAfter_map]
    exact inner.traced.append later

end Tracing

end Jadn.Import
