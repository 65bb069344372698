import Jadn.Proofs.Import.Endings

/-!
The import of a definition, as a round from the state before it to the one after it.

A round keeps the invariants, and all that is done in it is a run of the importer.
-/

set_option autoImplicit false

namespace Jadn.Import

open Relation (ReflTransGen)

/-- The import of a definition, from its entry in `st₁` through the run over its references to
its end. -/
structure Round (src : Sources) (Good : String → Prop) (st st₁ st₂ : State)
    (key : String × String) (source : TypeDefinition) (provisional result : String) (st' : State) :
    Prop where
  sound : Sound src Good st
  unmet : st.memo key = none
  declared : src.definition? key = some source
  memo₁ : ∀ k, st₁.memo k = if k = key then some provisional else st.memo k
  imported₁ : st₁.imported =
    st.imported ++ if st.isUsed src.base provisional then [] else [(provisional, none)]
  sound₁ : Sound src Good st₁
  sound₂ : Sound src Good st₂
  leads : ∀ x ∈ source.referredNames, st₂.Leads src key.1 x
  run : Run src Good (fun target => ∃ x ∈ source.referredNames, src.target? key.1 x = some target)
    st₁ st₂
  ended : Ended src st st₂ key provisional
    ((source.replaced (st₂.localName src key.1)).renamed provisional) result st'
  answer : result = provisional ∨ result = key.2
  good : Good result
  named : st.isUsed src.base key.2 = true ∧ src.Renames key provisional ∨
    st.isUsed src.base key.2 = false ∧ provisional = key.2

theorem named_of_provisional {src : Sources} {st : State} {key : String × String}
    {provisional : String}
    (named : st.isUsed src.base key.2 = true ∧ src.Renames key provisional ∨
      st.isUsed src.base key.2 = false ∧ provisional = key.2) :
    provisional = key.2 ∨ src.Renames key provisional := by
  rcases named with ⟨-, renames⟩ | ⟨-, own⟩
  · exact Or.inr renames
  · exact Or.inl own

namespace Round

variable {src : Sources} {Good : String → Prop} {st st₁ st₂ st' : State} {key : String × String}
  {source : TypeDefinition} {provisional result : String}
  (round : Round src Good st st₁ st₂ key source provisional result st')
include round

theorem renamed (other : provisional ≠ key.2) :
    st.isUsed src.base key.2 = true ∧ src.Renames key provisional := by
  rcases round.named with used | ⟨-, own⟩
  · exact used
  · exact absurd own other

theorem stands : src.Named key result := by
  refine ⟨Option.isSome_of_eq_some round.declared, ?_⟩
  rcases round.answer with rfl | own
  · exact named_of_provisional round.named
  · exact Or.inl own

theorem memo₁_key : st₁.memo key = some provisional := by
  rw [round.memo₁, if_pos rfl]

theorem memo₂_key : st₂.memo key = some provisional :=
  round.run.grows.memo key provisional round.memo₁_key

theorem isUsed₁_iff {name : String} :
    st₁.isUsed src.base name = true ↔ st.isUsed src.base name = true ∨ name = provisional :=
  State.isUsed_iff_of_entered round.imported₁

theorem memo_key : st'.memo key = some result := by
  rw [round.ended.memo, if_pos rfl]

theorem memo_of_ne {k : String × String} (other : k ≠ key) : st'.memo k = st₂.memo k := by
  rw [round.ended.memo, if_neg other]

theorem memo₁_of_ne {k : String × String} (other : k ≠ key) : st₁.memo k = st.memo k := by
  rw [round.memo₁, if_neg other]

theorem ne_key {k : String × String} {name : String} (noted : st.memo k = some name) :
    k ≠ key := by
  rintro rfl
  rw [round.unmet] at noted
  cases noted

theorem memo_mono (k : String × String) (met : (st₂.memo k).isSome) : (st'.memo k).isSome := by
  by_cases same : k = key
  · rw [same, round.memo_key]
    rfl
  · rwa [round.memo_of_ne same]

theorem isUsed_result : st'.isUsed src.base result = true := by
  obtain ⟨e, existing, -⟩ := round.ended.existing
  exact State.isUsed_of_held existing

/-- Other definitions met before or meanwhile are finished, unless their names were used. -/
theorem held_of_memo {k : String × String} {name : String} (other : k ≠ key)
    (noted : st₂.memo k = some name) (free : st.isUsed src.base name = false) :
    (st₂.held src.base name).isSome := by
  cases before : st.memo k with
  | some earlier =>
    have kept := round.run.grows.memo k earlier ((round.memo₁_of_ne other).trans before)
    rw [noted] at kept
    have used := round.sound.used k earlier before
    rw [← Option.some.inj kept, free] at used
    cases used
  | none =>
    obtain ⟨d, e, g, -, existing, -⟩ :=
      round.run.settled k name ((round.memo₁_of_ne other).trans before) noted
    exact Option.isSome_of_eq_some existing

/-- No definition met before or meanwhile goes by a name that is given up. -/
theorem not_givenUp_of_memo {k : String × String} {name : String} (other : k ≠ key)
    (noted : st₂.memo k = some name) : ¬ GivenUp src st st₂ key provisional result name := by
  intro givenUp
  have held := round.held_of_memo other noted givenUp.free
  rw [givenUp.unheld] at held
  cases held

theorem soundAfter : Sound src Good st' := by
  refine ⟨?_, ?_, ?_, ?_, ?_, ?_, ?_⟩
  · exact round.sound₂.distinct.sublist round.ended.sublist
  · intro n hn
    exact round.sound₂.apart n (round.ended.sublist.subset hn)
  · intro n e entry
    rcases round.ended.entries n e entry with before | ⟨rfl, rfl, -⟩
    · exact round.sound₂.named n e before
    · rfl
  · intro n hn
    exact round.sound₂.listed n (round.ended.sublist.subset hn)
  · intro k name noted
    by_cases same : k = key
    · rw [same, round.memo_key] at noted
      exact Option.some.inj noted ▸ round.isUsed_result
    · rw [round.memo_of_ne same] at noted
      rcases round.ended.isUsed name (round.sound₂.used k name noted) with used | givenUp
      · exact used
      · exact absurd givenUp (round.not_givenUp_of_memo same noted)
  · intro k name noted
    by_cases same : k = key
    · rw [same, round.memo_key] at noted
      exact Option.some.inj noted ▸ round.good
    · rw [round.memo_of_ne same] at noted
      exact round.sound₂.good k name noted
  · intro k name noted
    by_cases same : k = key
    · rw [same, round.memo_key] at noted
      rw [same, ← Option.some.inj noted]
      exact round.stands
    · rw [round.memo_of_ne same] at noted
      exact round.sound₂.stands k name noted

theorem grows : Grows st st' := by
  refine ⟨round.ended.grows, fun k name noted => ?_⟩
  have other := round.ne_key noted
  rw [round.memo_of_ne other]
  exact round.run.grows.memo k name ((round.memo₁_of_ne other).trans noted)

theorem localName_cases {x : String} (hx : x ∈ source.referredNames) :
    (BaseType.ofName? x).isSome ∧ st₂.localName src key.1 x = x ∨
      Good (st₂.localName src key.1 x) ∧ ∃ target, src.target? key.1 x = some target ∧
        src.Named target (st₂.localName src key.1 x) ∧ (st'.memo target).isSome := by
  refine (round.leads x hx).localName_cases.imp_right ?_
  rintro ⟨target, leads, noted⟩
  exact ⟨round.sound₂.good target _ noted, target, leads, round.sound₂.stands target _ noted,
    round.memo_mono target (Option.isSome_of_eq_some noted)⟩

theorem isUsed_localName {x : String} (hx : x ∈ source.referredNames) :
    (BaseType.ofName? x).isSome ∧ st₂.localName src key.1 x = x ∨
      st₂.isUsed src.base (st₂.localName src key.1 x) = true := by
  refine (round.leads x hx).localName_cases.imp_right ?_
  rintro ⟨target, -, noted⟩
  exact round.sound₂.used target _ noted

theorem isUsed_localName_of_kept (kept : provisional ∈ st'.imported.keys) {x : String}
    (hx : x ∈ source.referredNames) :
    (BaseType.ofName? (st₂.localName src key.1 x)).isSome ∨
      st'.isUsed src.base (st₂.localName src key.1 x) = true := by
  rcases round.isUsed_localName hx with ⟨base, same⟩ | used
  · exact Or.inl (same.symm ▸ base)
  · right
    rcases round.ended.isUsed _ used with used | givenUp
    · exact used
    · exact State.isUsed_iff.mpr (Or.inr (givenUp.name_eq ▸ kept))

theorem unmarked_localName (unmarked : ∀ x, Good x → Unmarked x) {x : String}
    (hx : x ∈ source.referredNames) : Unmarked (st₂.localName src key.1 x) := by
  rcases round.localName_cases hx with ⟨base, same⟩ | ⟨good, -⟩
  · rw [same]
    exact unmarked_of_baseType base
  · exact unmarked _ good

theorem referredNames_of_beq (unmarked : ∀ x, Good x → Unmarked x) {name : String}
    {e : TypeDefinition}
    (same : (e == (source.replaced (st₂.localName src key.1)).renamed name) = true) :
    e.referredNames = source.referredNames.map (st₂.localName src key.1) := by
  rw [TypeDefinition.referredNames_of_beq same]
  exact TypeDefinition.referredNames_replaced fun y hy =>
    Or.inl (round.unmarked_localName unmarked hy)

theorem settled_key : Settled src Good st' key result := by
  obtain ⟨e, existing, same⟩ := round.ended.existing
  exact ⟨source, e, st₂.localName src key.1, round.declared, existing, same,
    fun x hx => round.localName_cases hx⟩

theorem step_of_leads (unmarked : ∀ x, Good x → Unmarked x) {x first : String} {root : String × String}
    (hx : x ∈ source.referredNames) (leads : src.target? key.1 x = some root)
    (noted : st₂.memo root = some first) :
    src.Step (st'.held src.base) (key, result) (root, first) := by
  obtain ⟨e, existing, same⟩ := round.ended.existing
  refine ⟨source, e, x, round.declared, existing, ?_, leads⟩
  rw [round.referredNames_of_beq unmarked same,
    ← List.append_nil (source.referredNames.map _)]
  exact mem_zip_map_append.mpr ⟨hx, State.localName_of_memo leads noted⟩

theorem imported₂ : ∃ new : Dict TypeDefinition, st₂.imported = st.imported ++
    (if st.isUsed src.base provisional then [] else [(provisional, none)]) ++ finished new := by
  obtain ⟨new, grown⟩ := round.run.grows.imported
  exact ⟨new, by rw [grown, round.imported₁]⟩

/-- A definition that stays behind refers to a name that is given up only where references
are not looked at. -/
theorem lost_of_givenUp {name x : String} {e : TypeDefinition}
    (givenUp : GivenUp src st st₂ key provisional result x)
    (entry : (name, some e) ∈ st₂.imported) (new : name ∉ st.imported.keys)
    (hx : x ∈ e.referredNames) : Lost src st' e x := by
  have unlisted : x ∉ e.references := by
    obtain ⟨added, grown⟩ := round.imported₂
    have unreferred := givenUp.unreferred
    rw [State.refersTo, grown, List.append_assoc, Dict.values, List.map_append,
      List.drop_left' (by simp)] at unreferred
    rw [grown, List.append_assoc] at entry
    rcases List.mem_append.mp entry with early | late
    · exact absurd (List.mem_map_of_mem early) new
    · have := List.any_eq_false.mp unreferred (some e) (List.mem_map_of_mem late)
      simpa using this
  rcases TypeDefinition.mem_references_of_mem hx with listed | marked
  · exact absurd listed unlisted
  · obtain ⟨-, renames⟩ := round.renamed (givenUp.name_eq ▸ givenUp.apart)
    refine ⟨marked, key, givenUp.name_eq ▸ renames, ?_⟩
    · obtain ⟨existing, found, -⟩ := round.ended.existing
      rw [givenUp.result_eq] at found
      simp [found]

theorem closed (unmarked : ∀ x, Good x → Unmarked x) {name : String} {e : TypeDefinition}
    (entry : (name, some e) ∈ st'.imported) (new : name ∉ st.imported.keys) :
    ∀ x ∈ e.referredNames, (BaseType.ofName? x).isSome ∨ st'.isUsed src.base x = true ∨
      Lost src st' e x := by
  intro x hx
  have kept : st₂.isUsed src.base x = true → (name, some e) ∈ st₂.imported →
      st'.isUsed src.base x = true ∨ Lost src st' e x := by
    intro used before
    rcases round.ended.isUsed x used with used | givenUp
    · exact Or.inl used
    · exact Or.inr (round.lost_of_givenUp givenUp before new hx)
  rcases round.ended.entries name e entry with before | ⟨rfl, rfl, -⟩
  · have new₁ : name ∉ st₁.imported.keys := by
      intro early
      rw [round.imported₁, Dict.keys, List.map_append] at early
      rcases List.mem_append.mp early with older | own
      · exact new older
      · -- The reserved entry is not finished, and no other one has its name.
        obtain ⟨added, grown⟩ := round.imported₂
        obtain ⟨⟨name, o⟩, member, rfl⟩ := List.mem_map.mp own
        have reserved : (name, o) ∈ st₂.imported := by
          rw [grown]
          exact List.mem_append_left _ (List.mem_append_right _ member)
        have same := lookup_of_mem round.sound₂.distinct reserved
        rw [lookup_of_mem round.sound₂.distinct before] at same
        split at member <;> simp_all
    rcases round.run.closed unmarked name e before new₁ x hx with base | used | lost
    · exact Or.inl base
    · exact Or.inr (kept used before)
    · exact Or.inr (Or.inr (lost.mono round.ended.held))
  · rw [round.referredNames_of_beq unmarked (BEq.refl _)] at hx
    obtain ⟨y, hy, rfl⟩ := List.mem_map.mp hx
    exact (round.isUsed_localName_of_kept (List.mem_map_of_mem entry) hy).imp_right Or.inl

theorem runAfter : Run src Good (· = key) st st' := by
  refine ⟨round.grows, ?_, ?_, fun unmarked name e entry new => round.closed unmarked entry new⟩
  · intro k name unmet met
    by_cases same : k = key
    · rw [same, round.memo_key] at met
      rw [same, ← Option.some.inj met]
      exact round.settled_key
    · rw [round.memo_of_ne same] at met
      exact (round.run.settled k name ((round.memo₁_of_ne same).trans unmet) met).mono
        round.ended.held round.memo_mono
  · intro unmarked k name unmet met
    refine ⟨key, result, rfl, round.unmet, round.memo_key, ?_⟩
    by_cases same : k = key
    · rw [same, round.memo_key] at met
      rw [same, Option.some.inj met]
    · rw [round.memo_of_ne same] at met
      obtain ⟨root, first, ⟨x, hx, leads⟩, -, noted, steps⟩ :=
        round.run.reached unmarked k name ((round.memo₁_of_ne same).trans unmet) met
      have later := ReflTransGen.mono (fun _ _ => Sources.Step.mono round.ended.held) _ _ steps
      exact .head (round.step_of_leads unmarked hx leads noted) later

end Round

section Importing

variable {src : Sources} {Good : String → Prop}

theorem ended_of_ending {st st₂ st' : State} {key : String × String} {provisional : String}
    {d : TypeDefinition} {result : String} {new : Dict TypeDefinition}
    (grown : st₂.imported = st.imported ++
      (if st.isUsed src.base provisional then [] else [(provisional, none)]) ++ finished new)
    (distinct : st₂.imported.keys.Nodup) (noted : st₂.memo key = some provisional)
    (named : d.name = provisional)
    (ending : Ending src.base key provisional (!st.isUsed src.base provisional)
      st.imported.length d st₂ result st') :
    Ended src st st₂ key provisional d result st' ∧ (result = provisional ∨ result = key.2) := by
  cases free : st.isUsed src.base provisional with
  | true =>
    have grown : st₂.imported = st.imported ++ finished new := by simpa [free] using grown
    rw [free] at ending
    cases ending with
    | dropped unreferred same => exact ⟨ended_of_taken free grown same, Or.inr rfl⟩
    | kept fresh => cases fresh
    | found taken same => exact ⟨ended_of_taken free grown same, Or.inl rfl⟩
  | false =>
    have grown : st₂.imported = st.imported ++ (provisional, none) :: finished new := by
      simpa [free] using grown
    rw [free] at ending
    cases ending with
    | dropped unreferred same =>
      exact ⟨ended_of_dropped free grown distinct unreferred same, Or.inr rfl⟩
    | kept fresh => exact ⟨ended_of_kept free grown noted named, Or.inl rfl⟩
    | found taken same => cases taken

theorem round_of_ending (naming : Names src Good) {importer : Importer}
    (imports : Imports src Good importer) {package label name result : String}
    {chain names : List String} {st st₀ st₂ st' : State} {schema : Schema} {source : TypeDefinition}
    (labelled : src.Label label package) (sound : Sound src Good st)
    (unmet : st.memo (package, name) = none) (found : src.packages.lookup package = some schema)
    (declared : schema.get? name = some source) (localNames : st₀.localNames = st.localNames)
    (imported : st₀.imported = st.imported)
    (run : (source.referredNames.mapM
      ((Site.within schema package label).localName src importer chain)).run
      (st₀.entered (package, name) (provisional src.base st label name)
        (!st.isUsed src.base (provisional src.base st label name))) = .ok (names, st₂))
    (ending : Ending src.base (package, name) (provisional src.base st label name)
      (!st.isUsed src.base (provisional src.base st label name)) st.imported.length
      ((source.refilled names).renamed (provisional src.base st label name)) st₂ result st') :
    Round src Good st (st₀.entered (package, name) (provisional src.base st label name)
      (!st.isUsed src.base (provisional src.base st label name))) st₂ (package, name) source
      (provisional src.base st label name) result st' := by
  generalize stands : provisional src.base st label name = provisional at run ending ⊢
  have definition : src.definition? (package, name) = some source := by
    simp [Sources.definition?, found, declared]
  have named : st.isUsed src.base name = true ∧ src.Renames (package, name) provisional ∨
      st.isUsed src.base name = false ∧ provisional = name := by
    unfold Import.provisional at stands
    split at stands
    · next used => exact Or.inl ⟨used, label, source, labelled, definition, stands.symm⟩
    · next free => exact Or.inr ⟨Bool.eq_false_iff.mpr free, stands.symm⟩
  have good : Good provisional := by
    rcases named with ⟨-, renames⟩ | ⟨-, own⟩
    · exact naming.renamed _ _ renames
    · exact own ▸ naming.declared _ _ definition
  have stands : src.Named (package, name) provisional :=
    ⟨Option.isSome_of_eq_some definition, named_of_provisional named⟩
  obtain ⟨sound₁, memo₁, imported₁⟩ :=
    sound.entered (package, name) good stands localNames imported
  obtain ⟨sound₂, rfl, leads, run₂⟩ := followAll_run imports found labelled sound₁ run
  have noted := run₂.grows.memo (package, name) provisional (by rw [memo₁, if_pos rfl])
  obtain ⟨new, grown⟩ := run₂.grows.imported
  rw [imported₁] at grown
  rw [TypeDefinition.refilled_map] at ending
  obtain ⟨ended, result_eq⟩ := ended_of_ending grown sound₂.distinct noted rfl ending
  refine ⟨sound, unmet, definition, memo₁, imported₁, sound₁, sound₂, leads, run₂, ended, result_eq,
    ?_, named⟩
  rcases result_eq with rfl | rfl
  · exact good
  · exact naming.declared _ _ definition

theorem round_of_followed (naming : Names src Good) {importer : Importer}
    (imports : Imports src Good importer) {package label name result : String}
    {chain : List String} {st st' : State} (labelled : src.Label label package)
    (sound : Sound src Good st)
    (followed : Followed src importer package label name chain st result st') :
    ∃ st₁ st₂ source provisional schema names,
      Round src Good st st₁ st₂ (package, name) source provisional result st' ∧
        src.packages.lookup package = some schema ∧
        (source.referredNames.mapM
          ((Site.within schema package label).localName src importer chain)).run st₁ =
            .ok (names, st₂) := by
  obtain ⟨unmet, schema, source, st₀, names, st₂, found, declared, localNames, imported, run,
    ending⟩ := followed
  exact ⟨_, st₂, source, _, schema, names, round_of_ending naming imports labelled sound unmet found
    declared localNames imported run ending, found, run⟩

/-- Every import that succeeds is one run from the definition that was asked for. -/
theorem importName_run (naming : Names src Good) (fuel : Nat) :
    Imports src Good (importName src fuel) := by
  induction fuel with
  | zero =>
    intro package label name chain st result st' _ _ h
    cases h
  | succ fuel ih =>
    intro package label name chain st result st' labelled sound h
    rcases importName_eq_ok h with ⟨noted, rfl⟩ | followed
    · exact ⟨sound, noted, Run.refl st'⟩
    · obtain ⟨st₁, st₂, source, provisional, schema, names, round, -, -⟩ :=
        round_of_followed naming ih labelled sound followed
      exact ⟨round.soundAfter, round.memo_key, round.runAfter⟩

end Importing

end Jadn.Import
