import Jadn.Proofs.Import.Closure

/-!
Imports in which the names that definitions are renamed to are free.

If no definition has a name that another one is renamed to, and no two are renamed to the same
name, then the references of every definition are followed under a name of its own. A definition
that is dropped for an equal one then does not refer to itself, nor does any other one refer to
it. So what a finished definition refers to are the local names that are noted in the end.
-/

set_option autoImplicit false

namespace Jadn.Import

/-- The names that definitions are renamed to are not declared, and they are distinct. -/
structure Sources.Unambiguous (src : Sources) : Prop where
  undeclared : ∀ key name, src.Renames key name → src.base.get? name = none
  unused : ∀ key name other d, src.Renames key name → src.definition? other = some d →
    other.2 ≠ name
  distinct : ∀ key key' name, src.Renames key name → src.Renames key' name → key = key'

def Faithful (src : Sources) (st : State) (key : String × String) (e : TypeDefinition) : Prop :=
  ∃ d, src.definition? key = some d ∧
    e.referredNames = d.referredNames.map (st.localName src key.1) ∧
      ∀ x ∈ d.referredNames, st.Leads src key.1 x

/-- Every name that was entered is noted for a definition, which goes by its own name or by a new
one, and finished definitions refer to the local names that are noted. -/
structure Orderly (src : Sources) (st : State) : Prop where
  owned : ∀ name ∈ st.imported.keys, ∃ key, st.memo key = some name
  known : ∀ key name, st.memo key = some name → (src.definition? key).isSome ∧
    (name = key.2 ∨ src.Renames key name)
  faithful : ∀ key name e, st.memo key = some name → st.held src.base name = some e →
    Faithful src st key e

theorem orderly_empty {src : Sources} : Orderly src {} := by
  constructor <;> simp [State.memo, Dict.keys]

theorem Orderly.not_isUsed_of_renames {src : Sources} {st : State} (orderly : Orderly src st)
    (unambiguous : src.Unambiguous) {key : String × String} {name : String}
    (renames : src.Renames key name) (unmet : st.memo key = none) :
    st.isUsed src.base name = false := by
  refine State.isUsed_eq_false_iff.mpr ⟨unambiguous.undeclared key name renames, fun entered => ?_⟩
  obtain ⟨other, noted⟩ := orderly.owned name entered
  obtain ⟨declared, own | renames'⟩ := orderly.known other name noted
  · obtain ⟨d, found⟩ := Option.isSome_iff_exists.mp declared
    exact unambiguous.unused key name other d renames found own.symm
  · rw [← unambiguous.distinct key other name renames renames', unmet] at noted
    cases noted

/-- Only the local names of what a definition refers to count. -/
theorem Faithful.congr {src : Sources} {st st' : State} {key : String × String}
    {e : TypeDefinition} (faithful : Faithful src st key e)
    (same : ∀ x target name, src.target? key.1 x = some target → st.memo target = some name →
      name ∈ e.referredNames → st'.memo target = some name) : Faithful src st' key e := by
  obtain ⟨d, declared, names, leads⟩ := faithful
  have each : ∀ x ∈ d.referredNames, st'.localName src key.1 x = st.localName src key.1 x ∧
      st'.Leads src key.1 x := by
    intro x hx
    rcases (leads x hx).localName_cases with ⟨base, stands⟩ | ⟨target, leads, noted⟩
    · exact ⟨by rw [stands, st'.localName_of_baseType base], Or.inl base⟩
    · have kept := same x target _ leads noted (names ▸ List.mem_map_of_mem hx)
      exact ⟨State.localName_of_memo leads kept,
        Or.inr ⟨target, leads, Option.isSome_of_eq_some kept⟩⟩
  refine ⟨d, declared, ?_, fun x hx => (each x hx).2⟩
  rw [names]
  exact List.map_congr_left fun x hx => (each x hx).1.symm

namespace Round

variable {src : Sources} {st st₁ st₂ st' : State} {key : String × String}
  {source : TypeDefinition} {provisional result : String}
  (round : Round src ProperName st st₁ st₂ key source provisional result st')

include round

theorem free (unambiguous : src.Unambiguous) (orderly : Orderly src st) :
    st.isUsed src.base provisional = false := by
  rcases round.named with ⟨-, renames⟩ | ⟨free, own⟩
  · exact orderly.not_isUsed_of_renames unambiguous renames round.unmet
  · exact own ▸ free

theorem orderly₁ (orderly : Orderly src st) (free : st.isUsed src.base provisional = false) :
    Orderly src st₁ := by
  have grown : st₁.imported = st.imported ++ [(provisional, none)] := by
    simpa [free] using round.imported₁
  have own := round.memo₁_key
  constructor
  · intro name entered
    rw [grown, Dict.keys, List.map_append] at entered
    rcases List.mem_append.mp entered with before | reserved
    · obtain ⟨k, noted⟩ := orderly.owned name before
      exact ⟨k, by rw [round.memo₁_of_ne (round.ne_key noted), noted]⟩
    · exact ⟨key, by rw [own, List.mem_singleton.mp reserved]⟩
  · intro k name noted
    by_cases same : k = key
    · subst same
      rw [own] at noted
      cases noted
      exact ⟨Option.isSome_of_eq_some round.declared, named_of_provisional round.named⟩
    · rw [round.memo₁_of_ne same] at noted
      exact orderly.known k name noted
  · intro k name e noted held
    by_cases same : k = key
    · subst same
      rw [own] at noted
      cases noted
      have used := State.isUsed_of_held (round.held₁ held)
      rw [free] at used
      cases used
    · rw [round.memo₁_of_ne same] at noted
      refine (orderly.faithful k name e noted (round.held₁ held)).congr ?_
      intro x target other leads met member
      rwa [round.memo₁_of_ne (round.ne_key met)]

theorem unheld₂ (free : st.isUsed src.base provisional = false) :
    st₂.held src.base provisional = none := by
  obtain ⟨new, grown⟩ := round.imported₂
  exact State.held_eq_none_of_reserved free (by simpa [free] using grown)

theorem not_isUsed_provisional (free : st.isUsed src.base provisional = false)
    (other : result ≠ provisional) : st'.isUsed src.base provisional = false := by
  obtain ⟨undeclared, absent⟩ := State.isUsed_eq_false_iff.mp free
  refine State.isUsed_eq_false_iff.mpr ⟨undeclared, fun entered => ?_⟩
  obtain ⟨new, grown⟩ := round.ended.grows
  rw [grown, Dict.keys, List.map_append] at entered
  rcases List.mem_append.mp entered with before | added
  · exact absent before
  · obtain ⟨⟨_, o⟩, entry, rfl⟩ := List.mem_map.mp added
    obtain ⟨⟨name, e⟩, -, same⟩ := List.mem_map.mp entry
    cases same
    have entry : (name, some e) ∈ st'.imported := by
      rw [grown]
      exact List.mem_append_right _ entry
    rcases round.ended.entries name e entry with before | ⟨-, -, answer, -⟩
    · have held : st₂.held src.base name = some e :=
        State.held_eq_some_iff.mpr (Or.inr ⟨undeclared, lookup_of_mem round.sound₂.distinct before⟩)
      rw [round.unheld₂ free] at held
      cases held
    · exact other answer

/-- No finished definition refers to a provisional name that was given up. -/
theorem provisional_not_mem (free : st.isUsed src.base provisional = false) (tight : Tight src st')
    {name : String} {e : TypeDefinition} (held : st'.held src.base name = some e)
    (other : result ≠ provisional) : provisional ∉ e.referredNames := by
  intro member
  have good := round.sound₂.good key provisional round.memo₂_key
  rcases tight name e held provisional member with qualified | base | used
  · exact good.plain qualified
  · rw [good.other] at base
    cases base
  · rw [round.not_isUsed_provisional free other] at used
    cases used

theorem memo_of_referred (free : st.isUsed src.base provisional = false) (tight : Tight src st')
    {name : String} {e : TypeDefinition} (held : st'.held src.base name = some e)
    {target : String × String} {other : String} (noted : st₂.memo target = some other)
    (member : other ∈ e.referredNames) : st'.memo target = some other := by
  by_cases same : target = key
  · subst same
    rw [round.memo₂_key] at noted
    cases noted
    rw [round.memo_key]
    by_contra apart
    exact round.provisional_not_mem free tight held (fun same => apart (congrArg some same)) member
  · rwa [round.memo_of_ne same]

theorem held₂ {name : String} {e : TypeDefinition} (held : st'.held src.base name = some e)
    (other : name ≠ provisional) : st₂.held src.base name = some e := by
  rw [State.held_eq_some_iff] at held ⊢
  refine held.imp_right fun ⟨undeclared, found⟩ => ⟨undeclared, ?_⟩
  rcases round.ended.entries name e (mem_of_lookup found) with before | ⟨own, -⟩
  · exact lookup_of_mem round.sound₂.distinct before
  · exact absurd own other

/-- The definition that the import ends with refers to the names that are noted for its
references. -/
theorem faithful_result (naming : Naming src ProperName) {e : TypeDefinition}
    (held : st'.held src.base result = some e) : Faithful src st₂ key e := by
  obtain ⟨e', existing, equal⟩ := round.ended.existing
  rw [held] at existing
  cases existing
  exact ⟨source, round.declared, round.referredNames_of_beq naming.unmarked equal, round.leads⟩

theorem orderlyAfter (naming : Naming src ProperName)
    (free : st.isUsed src.base provisional = false) (orderly : Orderly src st₂)
    (tight : Tight src st') : Orderly src st' := by
  constructor
  · intro name entered
    obtain ⟨k, noted⟩ := orderly.owned name (round.ended.sublist.subset entered)
    by_cases same : k = key
    · subst same
      rw [round.memo₂_key] at noted
      cases noted
      refine ⟨k, ?_⟩
      rw [round.memo_key]
      by_contra apart
      have unused := round.not_isUsed_provisional free fun same => apart (congrArg some same)
      exact (State.isUsed_eq_false_iff.mp unused).2 entered
    · exact ⟨k, by rwa [round.memo_of_ne same]⟩
  · intro k name noted
    by_cases same : k = key
    · subst same
      rw [round.memo_key] at noted
      cases noted
      exact round.stands
    · rw [round.memo_of_ne same] at noted
      exact orderly.known k name noted
  · intro k name e noted held
    have before : Faithful src st₂ k e := by
      by_cases same : k = key
      · subst same
        rw [round.memo_key] at noted
        cases noted
        exact round.faithful_result naming held
      · rw [round.memo_of_ne same] at noted
        -- The provisional name is that of the definition that is followed, which is unfinished.
        have apart : name ≠ provisional := by
          rintro rfl
          have finished := round.held_of_memo same noted free
          rw [round.unheld₂ free] at finished
          cases finished
        exact orderly.faithful k name e noted (round.held₂ held apart)
    exact before.congr fun x target other _ noted => round.memo_of_referred free tight held noted

end Round

section Importing

variable {src : Sources} (naming : Naming src ProperName) (unambiguous : src.Unambiguous)

structure Regular (src : Sources) (st : State) : Prop where
  sound : Sound src ProperName st
  tight : Tight src st
  orderly : Orderly src st

include naming unambiguous

theorem importName_keeps (fuel : Nat) : Keeps src (Regular src) (importName src fuel) := by
  induction fuel with
  | zero =>
    intro package label name chain st result st' _ _ h
    cases h
  | succ fuel ih =>
    intro package label name chain st result st' labelled regular h
    have proper : ∀ x, ProperName x → ':' ∉ x.toList ∧ BaseType.ofName? x = none :=
      fun x good => ⟨good.plain, good.other⟩
    obtain ⟨tight', -⟩ := importName_tight naming proper (fuel + 1) package label name chain st
      result st' labelled regular.sound regular.tight h
    rcases importName_eq_ok h with ⟨-, rfl⟩ | followed
    · exact regular
    · obtain ⟨st₁, st₂, source, provisional, schema, names, round, found, run⟩ :=
        round_of_followed naming.toNames (importName_run naming.toNames fuel) labelled
          regular.sound followed
      have free := round.free unambiguous regular.orderly
      have regular₁ : Regular src st₁ :=
        ⟨round.sound₁, round.tight₁ regular.tight, round.orderly₁ regular.orderly free⟩
      have regular₂ := followAll_keeps ih found labelled regular₁ run
      exact ⟨round.soundAfter, tight', round.orderlyAfter naming free regular₂.orderly tight'⟩

end Importing

end Jadn.Import
