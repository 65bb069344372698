import Jadn.Proofs.Schema.Building

/-!
What the order of a hash table decides when a schema is built.

It makes no difference unless the patterns of all definitions compile and that of some field does
not. Then building fails in every order, and each order reports one of these patterns: which of
them is left open, and each of them is reported in some order.
-/

set_option autoImplicit false

namespace Jadn.Schema

/-- The error for a field whose own pattern does not compile. It names what the field refers to. -/
def FieldFault (types : List TypeDefinition) (e : ParseError) : Prop :=
  ∃ table, Extensions.ofTypes types = .ok table ∧ ∃ d ∈ types, ∃ f ∈ d.fields,
    ∃ base source fault, resolve? types table f.typeRef = some base ∧
      f.options.pattern = some source ∧ Pattern.compileAnchored source = .error fault ∧
        e = ⟨.invalidPattern source, some base.name, some fault.message⟩

section Faults

variable {types : List TypeDefinition} {table : Dict TypeDefinition}

/-- Where the patterns of all definitions compile, a fault in the type of a field is one of the
pattern of the field. -/
theorem patternFault_refinedFieldTypes_iff (derived : Extensions.ofTypes types = .ok table)
    (compile : ∀ d ∈ types, d.options.PatternCompiles) {e : ParseError} :
    (∃ t ∈ (refinedFieldTypes types table).map Prod.snd, t.PatternFault e) ↔
      FieldFault types e := by
  constructor
  · rintro ⟨_, listed, source, fault, pattern, invalid, rfl⟩
    obtain ⟨entry, member, rfl⟩ := List.mem_map.mp listed
    obtain ⟨d, hd, f, hf, -, base, found, rfl⟩ := mem_refinedFieldTypes_iff.mp member
    rw [pattern_refined, Option.or_eq_some_iff] at pattern
    rcases pattern with own | ⟨-, inherited⟩
    · exact ⟨table, derived, d, hd, f, hf, base, source, fault, found, own, invalid, rfl⟩
    · obtain ⟨t, ht, stands⟩ := exists_pattern_of_resolve? derived found inherited
      obtain ⟨p, compiled⟩ := compile t ht source stands
      simp [invalid] at compiled
  · rintro ⟨table', derived', d, hd, f, hf, base, source, fault, found, own, invalid, rfl⟩
    obtain rfl := Except.ok.inj (derived.symm.trans derived')
    refine ⟨_, List.mem_map_of_mem (mem_refinedFieldTypes_iff.mpr
      ⟨d, hd, f, hf, hasTypeOptions_of_pattern own, base, found, rfl⟩), source, fault, ?_,
      invalid, rfl⟩
    rw [pattern_refined, own, Option.some_or]

end Faults

/-- The order makes no difference to what definitions build, or else they build nothing, and the
faults of the patterns of fields are what is reported, each in some order. -/
theorem build_determined_or (info : Info) (types : List TypeDefinition) (limits : Limits) :
    (∀ order order', build info types limits order = build info types limits order') ∨
      (∀ d ∈ types, d.options.PatternCompiles) ∧
        ∀ outcome, (∃ order, build info types limits order = outcome) ↔
          ∃ e, FieldFault types e ∧ outcome = .error (.parse e) := by
  unfold build
  -- What is checked before any pattern fails in the same way in every order.
  cases (limits.check .types types.length).mapError Error.limit with
  | error e => exact .inl fun _ _ => rfl
  | ok _ =>
  cases checkNamesDistinct types with
  | error e => exact .inl fun _ _ => rfl
  | ok _ =>
  cases checkExports info types with
  | error e => exact .inl fun _ _ => rfl
  | ok _ =>
  cases derived : Extensions.ofTypes types with
  | error e => exact .inl fun _ _ => rfl
  | ok table =>
    simp only [bind, Except.bind]
    rcases patternTable_determined_or types ((refinedFieldTypes types table).map Prod.snd) with
      determined | ⟨compile, reported⟩
    · refine .inl fun order order' => ?_
      rw [determined order order']
    · refine .inr ⟨compile, fun outcome => ?_⟩
      have faults := fun e => patternFault_refinedFieldTypes_iff derived compile (e := e)
      constructor
      · rintro ⟨order, rfl⟩
        obtain ⟨t, ht, e, fault, fails⟩ := (reported _).mp ⟨order, rfl⟩
        exact ⟨e, (faults e).mp ⟨t, ht, fault⟩, by rw [fails]⟩
      · rintro ⟨e, fault, rfl⟩
        obtain ⟨t, ht, fault⟩ := (faults e).mpr fault
        obtain ⟨order, fails⟩ := (reported _).mpr ⟨t, ht, e, fault, rfl⟩
        exact ⟨order, by rw [fails]⟩

end Jadn.Schema
