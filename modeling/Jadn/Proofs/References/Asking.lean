import Jadn.Proofs.Outcome
import Jadn.Proofs.References

/-!
Which names a function is asked for that replaces the references of a definition.

The function may fail, and its answers may depend on what it was asked for before. It is asked for
the names behind the references one by one, in the order of the references and up to the first
refusal. `TypeDefinition.references` lists them in this order, but leaves the markers on the types
of fields.
-/

set_option autoImplicit false

namespace Jadn

theorem splitMarker_snd_eq_iff {reference : String} :
    (splitMarker reference).2 = reference ↔ Unmarked reference := by
  constructor
  · intro same
    cases marked : (splitMarker reference).1 with
    | false => exact marked
    | true =>
      have length := congrArg String.length (splitMarker_of_marked marked)
      rw [same, markedReference, String.length_append] at length
      have marker : "#".length = 1 := rfl
      omega
  · exact splitMarker_of_unmarked

theorem eq_or_eq_markedReference (reference : String) :
    reference = (splitMarker reference).2 ∨
      reference = markedReference (splitMarker reference).2 := by
  cases marked : (splitMarker reference).1 with
  | false => exact Or.inl (splitMarker_of_unmarked marked).symm
  | true => exact Or.inr (splitMarker_of_marked marked)

theorem Field.referredNames_eq_references_iff {f : Field} :
    f.referredNames = f.references ↔ Unmarked f.typeRef := by
  rw [referredNames, references, List.cons.injEq, splitMarker_snd_eq_iff]
  exact and_iff_left rfl

abbrev Replacer (ε : Type) := (before : List String) → (name : String) → Except ε String

namespace Replacer

variable {ε : Type}

def ask (f : Replacer ε) (name : String) : ExceptT ε (StateM (List String)) String :=
  ExceptT.mk fun before => (f before name, before ++ [name])

/-- What comes of a run, and the names that were asked for. -/
def record {α : Type} (run : ExceptT ε (StateM (List String)) α) (before : List String) :
    Except ε α × List String :=
  StateT.run (m := Id) (ExceptT.run run) before

/-- What it comes to that names are asked for in turn, up to the first refusal. -/
structure Asked (f : Replacer ε) (before names : List String) {α : Type}
    (outcome : Except ε α) (handed : List String) : Prop where
  ordered : handed <+: names
  complete : ∀ a, outcome = .ok a → handed = names
  refused : ∀ e, outcome = .error e →
    ∃ earlier name, handed = earlier ++ [name] ∧ f (before ++ earlier) name = .error e
  /-- Nothing is asked for after a refusal. -/
  last : ∀ earlier name later e, handed = earlier ++ name :: later →
    f (before ++ earlier) name = .error e → later = [] ∧ outcome = .error e

theorem Asked.map {f : Replacer ε} {before names handed : List String} {α β : Type}
    {outcome : Except ε α} (asked : f.Asked before names outcome handed) (g : α → β) :
    f.Asked before names (g <$> outcome) handed where
  ordered := asked.ordered
  complete := by
    intro b done
    obtain ⟨a, given, -⟩ := Except.map_eq_ok_iff.mp done
    exact asked.complete a given
  refused := fun e failed => asked.refused e (Except.map_eq_error_iff.mp failed)
  last := fun earlier name later e split refused =>
    (asked.last earlier name later e split refused).imp_right Except.map_eq_error_iff.mpr

section Record

variable {f : Replacer ε} {before : List String} {name : String} {α β : Type}

theorem record_map (g : α → β) (run : ExceptT ε (StateM (List String)) α) :
    record (g <$> run) before = ((record run before).map (g <$> ·) id) := by
  rw [record, ExceptT.run_map]
  rfl

theorem record_ask_of_error {e : ε} (refused : f before name = .error e)
    (next : String → ExceptT ε (StateM (List String)) α) :
    record (f.ask name >>= next) before = (.error e, before ++ [name]) := by
  change (ExceptT.bindCont next (f before name)).run (before ++ [name]) = _
  rw [refused]
  rfl

theorem record_ask_of_ok {answer : String} (answered : f before name = .ok answer)
    (next : String → ExceptT ε (StateM (List String)) α) :
    record (f.ask name >>= next) before = record (next answer) (before ++ [name]) := by
  change (ExceptT.bindCont next (f before name)).run (before ++ [name]) = _
  rw [answered]
  rfl

end Record

/-- Names are asked for in turn, up to the first refusal. The induction is on the names, those asked
for before being any. -/
theorem record_mapM_ask (f : Replacer ε) (names before : List String) :
    ∃ outcome handed, record (names.mapM f.ask) before = (outcome, before ++ handed) ∧
      f.Asked before names outcome handed := by
  induction names generalizing before with
  | nil =>
    refine ⟨.ok [], [], by rw [List.append_nil]; rfl, List.prefix_rfl, fun _ _ => rfl, ?_, ?_⟩
    · rintro e ⟨⟩
    · intro earlier name later e split
      simp at split
  | cons name names ih =>
    rw [List.mapM_cons]
    cases answer : f before name with
    | error e =>
      refine ⟨.error e, [name], record_ask_of_error answer _, ⟨names, rfl⟩, ?_, ?_, ?_⟩
      · rintro _ ⟨⟩
      · rintro _ ⟨⟩
        exact ⟨[], name, rfl, by rwa [List.append_nil]⟩
      · intro earlier other later e' split refused
        obtain ⟨rfl, same⟩ := List.append_eq_singleton_iff.mp split.symm |>.resolve_right (by simp)
        obtain ⟨rfl, rfl⟩ := List.cons.inj same
        rw [List.append_nil, answer] at refused
        exact ⟨rfl, congrArg _ (Except.error.inj refused)⟩
    | ok y =>
      obtain ⟨outcome, handed, recorded, asked⟩ := ih (before ++ [name])
      refine ⟨(y :: ·) <$> outcome, name :: handed, ?_, ?_, ?_, ?_, ?_⟩
      · rw [record_ask_of_ok answer, bind_pure_comp, record_map, recorded]
        simp
      · exact (List.prefix_cons_inj name).mpr asked.ordered
      · intro ys done
        obtain ⟨zs, given, -⟩ := Except.map_eq_ok_iff.mp done
        rw [asked.complete zs given]
      · intro e failed
        obtain ⟨earlier, last, rfl, refused⟩ := asked.refused e (Except.map_eq_error_iff.mp failed)
        exact ⟨name :: earlier, last, rfl, by simpa using refused⟩
      · intro earlier other later e split refused
        cases earlier with
        | nil =>
          obtain ⟨rfl, -⟩ := List.cons.inj split
          rw [List.append_nil, answer] at refused
          cases refused
        | cons first earlier =>
          obtain ⟨rfl, rest⟩ := List.cons.inj split
          rw [List.append_cons] at refused
          obtain ⟨first, failed⟩ := asked.last earlier other later e rest refused
          exact ⟨first, Except.map_eq_error_iff.mpr failed⟩

end Replacer

namespace TypeDefinition

variable {ε : Type}

/-- The references of a definition are the names behind them, in the same order, some of them with
a marker. -/
theorem forall₂_references (d : TypeDefinition) :
    List.Forall₂ (fun name reference => reference = name ∨ reference = markedReference name)
      d.referredNames d.references := by
  have same : ∀ names : List String, List.Forall₂
      (fun name reference => reference = name ∨ reference = markedReference name) names names :=
    fun names => List.forall₂_same.mpr fun _ _ => Or.inl rfl
  rw [referredNames, references]
  refine List.rel_append (same _) ?_
  refine List.rel_flatMap (List.forall₂_same.mpr fun _ _ => rfl) ?_
  rintro f _ rfl
  exact .cons (eq_or_eq_markedReference f.typeRef) (same _)

theorem referredNames_eq_references_iff {d : TypeDefinition} :
    d.referredNames = d.references ↔ ∀ f ∈ d.fields, Unmarked f.typeRef := by
  rw [referredNames, references, List.append_cancel_left_eq]
  induction d.fields with
  | nil => simp
  | cons f fields ih =>
    have length : f.referredNames.length = f.references.length := rfl
    rw [List.flatMap_cons, List.flatMap_cons, List.forall_mem_cons, ← ih,
      ← Field.referredNames_eq_references_iff]
    exact ⟨fun same => List.append_inj same length, fun same => congrArg₂ _ same.1 same.2⟩

theorem mapReferences_pure {m : Type → Type} [Monad m] [LawfulMonad m] (d : TypeDefinition) :
    d.mapReferences (m := m) pure = pure d := by
  rw [mapReferences_eq, List.mapM_pure, map_pure, refilled_map, replaced_of_fixed fun _ _ => rfl]

/-- A function that replaces the references of a definition is asked for the names behind them one
by one, in the order of the references, and up to the first name that it refuses. If it refuses
none, it is asked for all. The references that `references` lists are these names in the same
order, but for the markers that are left on the types of fields. To replace each name by itself
changes nothing. -/
theorem mapReferences_asks (d : TypeDefinition) :
    (∀ f : Replacer ε, ∃ outcome handed,
      Replacer.record (d.mapReferences f.ask) [] = (outcome, handed) ∧
      f.Asked [] d.referredNames outcome handed ∧
      ((∀ before name, ∃ y, f before name = .ok y) →
        handed = d.referredNames ∧ ∃ e, outcome = .ok e)) ∧
    List.Forall₂ (fun name reference => reference = name ∨ reference = markedReference name)
      d.referredNames d.references ∧
    (d.referredNames = d.references ↔ ∀ f ∈ d.fields, Unmarked f.typeRef) ∧
    d.mapReferences (m := Except ε) .ok = .ok d := by
  refine ⟨fun f => ?_, d.forall₂_references, referredNames_eq_references_iff, d.mapReferences_pure⟩
  obtain ⟨outcome, handed, recorded, asked⟩ := f.record_mapM_ask d.referredNames []
  have asked := asked.map d.refilled
  refine ⟨d.refilled <$> outcome, handed, ?_, asked, fun total => ?_⟩
  · rw [mapReferences_eq, Replacer.record_map, recorded]
    rfl
  · cases result : d.refilled <$> outcome with
    | ok e => exact ⟨asked.complete e result, e, rfl⟩
    | error e =>
      obtain ⟨earlier, name, -, refused⟩ := asked.refused e result
      obtain ⟨y, answered⟩ := total ([] ++ earlier) name
      rw [answered] at refused
      cases refused

end TypeDefinition

end Jadn
