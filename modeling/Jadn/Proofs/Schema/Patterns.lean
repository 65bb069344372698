import Jadn.Proofs.Dict
import Jadn.Proofs.Outcome
import Jadn.Schema

/-!
The patterns that are compiled when a schema is built.

They all compile, or the first one that does not is reported. The definitions whose patterns are
compiled last come in the order of a hash table. That order makes no difference to the table of
what is compiled, but every invalid pattern among them is reported in some order.
-/

set_option autoImplicit false

namespace Jadn

/-- Every arrangement of definitions is one that a hash table may have. -/
theorem HashOrder.exists_arrange {ds arranged : List TypeDefinition} (perm : arranged.Perm ds) :
    ∃ order : HashOrder, order.arrange ds = arranged := by
  classical
  refine ⟨⟨fun xs => if xs = ds then arranged else xs, fun xs => ?_⟩, if_pos rfl⟩
  split
  · next same => exact same ▸ perm
  · exact .refl xs

def Options.PatternCompiles (o : Options) : Prop :=
  ∀ source, o.pattern = some source → ∃ p, Pattern.compileAnchored source = .ok p

/-- The error for a definition whose pattern does not compile. -/
def TypeDefinition.PatternFault (d : TypeDefinition) (e : ParseError) : Prop :=
  ∃ source fault, d.options.pattern = some source ∧
    Pattern.compileAnchored source = .error fault ∧
    e = ⟨.invalidPattern source, some d.name, some fault.message⟩

theorem TypeDefinition.exists_patternFault_iff {d : TypeDefinition} :
    (∃ e, d.PatternFault e) ↔ ¬ d.options.PatternCompiles := by
  constructor
  · rintro ⟨e, source, fault, own, invalid, -⟩ compiles
    obtain ⟨p, compiled⟩ := compiles source own
    simp [invalid] at compiled
  · intro fails
    simp only [Options.PatternCompiles, not_forall] at fails
    obtain ⟨source, own, fails⟩ := fails
    cases compiled : Pattern.compileAnchored source with
    | ok p => exact absurd ⟨p, compiled⟩ fails
    | error fault => exact ⟨_, source, fault, own, compiled, rfl⟩

namespace Schema

section Adding

variable {table table' : Dict Pattern} {d : TypeDefinition}

def Compiles (table : Dict Pattern) : Prop :=
  ∀ source p, table.lookup source = some p → Pattern.compileAnchored source = .ok p

theorem compiles_addPattern (known : Compiles table) (added : addPattern table d = .ok table') :
    Compiles table' := by
  unfold addPattern at added
  split at added
  · cases added
    exact known
  · next source _ =>
    split at added
    · cases added
      exact known
    · split at added
      · next pattern good =>
        cases added
        exact Dict.forall_lookup_insert known good
      · cases added

theorem addPattern_eq_error_iff (known : Compiles table) {e : Error} :
    addPattern table d = .error e ↔ ∃ p, d.PatternFault p ∧ e = .parse p := by
  unfold TypeDefinition.PatternFault
  rw [addPattern]
  cases d.options.pattern with
  | none => simp
  | some source =>
    cases there : table.lookup source with
    | some p => simp [Dict.contains, there, known source p there]
    | none =>
      cases good : Pattern.compileAnchored source <;>
        simp [Dict.contains, there, good, eq_comm]

theorem exists_addPattern_iff (known : Compiles table) :
    (∃ table', addPattern table d = .ok table') ↔ d.options.PatternCompiles := by
  rw [← not_iff_not, ← TypeDefinition.exists_patternFault_iff]
  cases added : addPattern table d with
  | ok table' =>
    refine iff_of_false (not_not_intro ⟨table', rfl⟩) fun ⟨p, fault⟩ => ?_
    have fails := (addPattern_eq_error_iff known).mpr ⟨p, fault, rfl⟩
    cases added.symm.trans fails
  | error e =>
    obtain ⟨p, fault, -⟩ := (addPattern_eq_error_iff known).mp added
    exact iff_of_true nofun ⟨p, fault⟩

theorem lookup_addPattern (added : addPattern table d = .ok table') {source : String} {p : Pattern}
    (known : table.lookup source = some p) : table'.lookup source = some p := by
  unfold addPattern at added
  split at added
  · cases added
    exact known
  · next own _ =>
    split at added
    · cases added
      exact known
    · next fresh =>
      split at added
      · cases added
        have other : source ≠ own := by
          rintro rfl
          simp [Dict.contains, known] at fresh
        rwa [Dict.lookup_insert_of_ne _ _ other]
      · cases added

theorem exists_lookup_addPattern (added : addPattern table d = .ok table') {source : String}
    (own : d.options.pattern = some source) : ∃ p, table'.lookup source = some p := by
  unfold addPattern at added
  rw [own] at added
  dsimp only at added
  split at added
  · next known =>
    cases added
    exact Option.isSome_iff_exists.mp known
  · split at added
    · next p _ =>
      cases added
      exact ⟨p, Dict.lookup_insert_self _ _ _⟩
    · cases added

end Adding

section Compiling

variable {types refined : List TypeDefinition} {table : Dict Pattern}

theorem compiles_of_compiledPatterns (compiled : compiledPatterns types = .ok table) :
    Compiles table :=
  Except.foldlM_induction Compiles (fun _ _ _ _ => compiles_addPattern) (by simp [Compiles])
    compiled

theorem exists_compiledPatterns_iff :
    (∃ table, compiledPatterns types = .ok table) ↔ ∀ d ∈ types, d.options.PatternCompiles :=
  Except.exists_foldlM_eq_ok_iff Compiles (fun _ _ _ _ => compiles_addPattern)
    (fun _ _ _ => exists_addPattern_iff) (by simp [Compiles])

theorem exists_lookup_of_foldlM {table' : Dict Pattern}
    (compiled : types.foldlM addPattern table = .ok table') :
    (∀ source p, table.lookup source = some p → table'.lookup source = some p) ∧
      ∀ d ∈ types, ∀ source, d.options.pattern = some source →
        ∃ p, table'.lookup source = some p := by
  induction types generalizing table with
  | nil =>
    cases compiled
    exact ⟨fun _ _ known => known, fun _ member => by cases member⟩
  | cons d types ih =>
    rw [List.foldlM_cons] at compiled
    obtain ⟨next, added, compiled⟩ := Except.bind_eq_ok_iff.mp compiled
    obtain ⟨kept, others⟩ := ih compiled
    refine ⟨fun source p known => kept source p (lookup_addPattern added known), ?_⟩
    intro e member source own
    rcases List.mem_cons.mp member with rfl | later
    · obtain ⟨p, known⟩ := exists_lookup_addPattern added own
      exact ⟨p, kept source p known⟩
    · exact others e later source own

theorem fault_of_compiledPatterns :
    (compiledPatterns types).FailsWith fun e => ∃ d ∈ types, ∃ p, d.PatternFault p ∧ e = .parse p :=
  .foldlM Compiles (fun _ _ _ _ => compiles_addPattern)
    (fun _ d hd known _ fails => ⟨d, hd, (addPattern_eq_error_iff known).mp fails⟩)
    (by simp [Compiles])

/-- A fault is reported where everything before compiles. -/
theorem compiledPatterns_of_fault {d : TypeDefinition} {p : ParseError} {rest : List TypeDefinition}
    (compile : ∀ d ∈ types, d.options.PatternCompiles) (fault : d.PatternFault p) :
    compiledPatterns (types ++ d :: rest) = .error (.parse p) := by
  obtain ⟨table, compiled⟩ := exists_compiledPatterns_iff.mpr compile
  have fails := (addPattern_eq_error_iff (compiles_of_compiledPatterns compiled)).mpr
    ⟨p, fault, rfl⟩
  have before : types.foldlM addPattern [] = .ok table := compiled
  rw [compiledPatterns, List.foldlM_append, before]
  change (d :: rest).foldlM addPattern table = _
  rw [List.foldlM_cons, fails]
  rfl

theorem patternTable_eq_ok_iff {order : HashOrder} :
    patternTable types refined order = .ok table ↔
      compiledPatterns (types ++ refined) = .ok table := by
  rw [patternTable, Except.bind_eq_ok_iff]
  refine ⟨fun ⟨_, _, compiled⟩ => compiled, fun compiled => ⟨⟨⟩, ?_, compiled⟩⟩
  have all : ∀ d ∈ types ++ order.arrange refined, d.options.PatternCompiles := fun d hd =>
    exists_compiledPatterns_iff.mp ⟨table, compiled⟩ d
      (((order.perm refined).append_left types).mem_iff.mp hd)
  obtain ⟨_, compiled'⟩ := exists_compiledPatterns_iff.mpr all
  rw [compiled']
  rfl

theorem patternTable_eq_error_iff {order : HashOrder} {e : Error} :
    patternTable types refined order = .error e ↔
      compiledPatterns (types ++ order.arrange refined) = .error e := by
  cases compiled : compiledPatterns (types ++ order.arrange refined) with
  | error own =>
    rw [patternTable, compiled]
    exact Iff.rfl
  | ok table =>
    have all : ∀ d ∈ types ++ refined, d.options.PatternCompiles := fun d hd =>
      exists_compiledPatterns_iff.mp ⟨table, compiled⟩ d
        (((order.perm refined).append_left types).mem_iff.mpr hd)
    obtain ⟨table', compiled'⟩ := exists_compiledPatterns_iff.mpr all
    rw [patternTable_eq_ok_iff.mpr compiled']
    simp

theorem patternTable_entered :
    patternTable types refined .entered = compiledPatterns (types ++ refined) := by
  cases compiled : compiledPatterns (types ++ refined) with
  | ok table => exact patternTable_eq_ok_iff.mpr compiled
  | error e => exact patternTable_eq_error_iff.mpr compiled

/-- The order makes no difference at all, or else it decides which one of the invalid patterns is
reported among the definitions that a hash table holds. -/
theorem patternTable_determined_or (types refined : List TypeDefinition) :
    (∀ order order', patternTable types refined order = patternTable types refined order') ∨
      (∀ d ∈ types, d.options.PatternCompiles) ∧
        ∀ outcome, (∃ order, patternTable types refined order = outcome) ↔
          ∃ d ∈ refined, ∃ p, d.PatternFault p ∧ outcome = .error (.parse p) := by
  cases compiled : compiledPatterns (types ++ refined) with
  | ok table =>
    left
    intro order order'
    rw [patternTable_eq_ok_iff.mpr compiled, patternTable_eq_ok_iff.mpr compiled]
  | error own =>
    by_cases compile : ∀ d ∈ types, d.options.PatternCompiles
    · refine Or.inr ⟨compile, fun outcome => ⟨?_, ?_⟩⟩
      · rintro ⟨order, rfl⟩
        cases result : patternTable types refined order with
        | ok table => simp [patternTable_eq_ok_iff.mp result] at compiled
        | error e =>
          obtain ⟨d, hd, p, fault, rfl⟩ :=
            fault_of_compiledPatterns e (patternTable_eq_error_iff.mp result)
          have invalid := TypeDefinition.exists_patternFault_iff.mp ⟨p, fault⟩
          rcases List.mem_append.mp hd with declared | held
          · exact absurd (compile d declared) invalid
          · exact ⟨d, (order.perm refined).mem_iff.mp held, p, fault, rfl⟩
      · rintro ⟨d, hd, p, fault, rfl⟩
        -- The order that puts the definition first.
        obtain ⟨before, after, rfl⟩ := List.append_of_mem hd
        have perm : (d :: (before ++ after)).Perm (before ++ d :: after) := List.perm_middle.symm
        obtain ⟨order, first⟩ := HashOrder.exists_arrange perm
        refine ⟨order, patternTable_eq_error_iff.mpr ?_⟩
        rw [first]
        exact compiledPatterns_of_fault compile fault
    · left
      have fails : ∃ e, compiledPatterns types = .error e := by
        cases own : compiledPatterns types with
        | ok table => exact absurd (exists_compiledPatterns_iff.mp ⟨table, own⟩) compile
        | error e => exact ⟨e, rfl⟩
      obtain ⟨e, fails⟩ := fails
      have always : ∀ order, patternTable types refined order = .error e := by
        intro order
        have before : types.foldlM addPattern [] = .error e := fails
        rw [patternTable_eq_error_iff, compiledPatterns, List.foldlM_append, before]
        rfl
      exact fun order order' => (always order).trans (always order').symm

end Compiling

end Schema

end Jadn
