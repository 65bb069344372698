import Jadn.Proofs.Codec.Options
import Jadn.Proofs.Options.Merging

/-!
Options that are made of other options: laid over one another, split into the part about a
field and the part about its type, or given other references.

None of these comes from a list, and yet each can be written and read back. Options can be
written if no keyword and no reference is empty and if no item without a meaning has one; every
way to make options of others keeps this.
-/

set_option autoImplicit false

namespace Jadn

namespace Options

section Merging

variable {base overlay : Options}

theorem eq_some_of_orElse {own inherited : Option String} {r : String}
    (h : (own <|> inherited) = some r) : own = some r ∨ inherited = some r := by
  cases own with
  | none => exact .inr h
  | some r' => exact .inl h

/-- What is given after a merge was given before it, in one role or the other. -/
theorem mem_given_merge {r : String} (h : r ∈ (base.merge overlay).given) :
    r ∈ overlay.given ∨ r ∈ base.given := by
  simp only [given, merge, List.mem_append, Option.mem_toList] at h ⊢
  rcases h with ((vtype | ktype) | enumeration) | pointer
  · rcases eq_some_of_orElse vtype with own | inherited
    · exact .inl (.inl (.inl (.inl own)))
    · exact .inr (.inl (.inl (.inl inherited)))
  · rcases eq_some_of_orElse ktype with own | inherited
    · exact .inl (.inl (.inl (.inr own)))
    · exact .inr (.inl (.inl (.inr inherited)))
  · rcases eq_some_of_orElse enumeration with own | inherited
    · exact .inl (.inl (.inr own))
    · exact .inr (.inl (.inr inherited))
  · rcases eq_some_of_orElse pointer with own | inherited
    · exact .inl (.inr own)
    · exact .inr (.inr inherited)

theorem Writable.merge (h : base.Writable) (h' : overlay.Writable) :
    (base.merge overlay).Writable := by
  refine ⟨⟨?_, ?_⟩, ?_⟩
  · intro keyword
    rcases eq_some_of_orElse keyword with own | inherited
    · exact h'.format own
    · exact h.format inherited
  · intro item member
    rcases mem_mergeUnknown.mp member with inherited | own
    · exact h.unknown item inherited
    · exact h'.unknown item own
  · intro empty
    rcases mem_given_merge empty with own | inherited
    · exact h'.named own
    · exact h.named inherited

end Merging

section Splitting

variable {o : Options}

theorem writable_fieldOptions (o : Options) : o.fieldOptions.Writable := by
  refine ⟨⟨?_, ?_⟩, ?_⟩ <;> simp [fieldOptions, given]

theorem Writable.typeOptions (h : o.Writable) : o.typeOptions.Writable :=
  ⟨⟨h.format, h.unknown⟩, h.named⟩

end Splitting

section References

variable {σ ε : Type} {f : String → StateT σ (Except ε) String} {o o' : Options} {st st' : σ}

/-- A function that may keep a state and may fail, but never answers with an empty name. -/
def AlwaysNames (f : String → StateT σ (Except ε) String) : Prop :=
  ∀ name st answer st', (f name).run st = .ok (answer, st') → answer ≠ ""

theorem AlwaysNames.mapReference (named : AlwaysNames f) {reference answer : String}
    (h : (mapReference f reference).run st = .ok (answer, st')) : answer ≠ "" := by
  simp only [Jadn.mapReference, StateT.run_bind] at h
  obtain ⟨⟨name, st₁⟩, asked, answered⟩ := Except.bind_eq_ok_iff.mp h
  cases answered
  cases (splitMarker reference).1 with
  | true => exact markedReference_ne_empty name
  | false => exact named _ _ _ _ asked

theorem AlwaysNames.mapM (named : AlwaysNames f) {slot slot' : Option String}
    (h : (slot.mapM (Jadn.mapReference f)).run st = .ok (slot', st')) : slot' ≠ some "" := by
  cases slot with
  | none =>
    cases h
    exact (Option.some_ne_none "").symm
  | some reference =>
    simp only [Option.mapM_some, StateT.run_map] at h
    obtain ⟨⟨answer, st₁⟩, asked, answered⟩ := Except.map_eq_ok_iff.mp h
    cases answered
    rw [ne_eq, Option.some.injEq]
    exact named.mapReference asked

theorem mapReferences_eq_ok (h : (o.mapReferences f).run st = .ok (o', st')) :
    ∃ vtype ktype enumeration pointer st₁ st₂ st₃,
      (o.vtype.mapM (mapReference f)).run st = .ok (vtype, st₁) ∧
      (o.ktype.mapM (mapReference f)).run st₁ = .ok (ktype, st₂) ∧
      (o.enumeration.mapM (mapReference f)).run st₂ = .ok (enumeration, st₃) ∧
      (o.pointer.mapM (mapReference f)).run st₃ = .ok (pointer, st') ∧
      o' = { o with vtype, ktype, enumeration, pointer } := by
  simp only [mapReferences, StateT.run_bind] at h
  obtain ⟨⟨vtype, st₁⟩, first, h⟩ := Except.bind_eq_ok_iff.mp h
  obtain ⟨⟨ktype, st₂⟩, second, h⟩ := Except.bind_eq_ok_iff.mp h
  obtain ⟨⟨enumeration, st₃⟩, third, h⟩ := Except.bind_eq_ok_iff.mp h
  obtain ⟨⟨pointer, st₄⟩, fourth, h⟩ := Except.bind_eq_ok_iff.mp h
  cases h
  exact ⟨vtype, ktype, enumeration, pointer, st₁, st₂, st₃, first, second, third, fourth, rfl⟩

theorem Regular.mapReferences (h : o.Regular) (named : AlwaysNames f)
    (mapped : (o.mapReferences f).run st = .ok (o', st')) : o'.Writable := by
  obtain ⟨vtype, ktype, enumeration, pointer, st₁, st₂, st₃, first, second, third, fourth, rfl⟩ :=
    mapReferences_eq_ok mapped
  refine ⟨⟨h.format, h.unknown⟩, ?_⟩
  simp only [given, List.mem_append, Option.mem_toList, not_or]
  exact ⟨⟨⟨named.mapM first, named.mapM second⟩, named.mapM third⟩, named.mapM fourth⟩

end References

section Making

variable {o : Options}

/-- Options that are read from a list, and what is made of them in any number of steps. -/
inductive Made : Options → Prop where
  | read {items : List String} {o : Options} (h : ofList items = .ok o) : Made o
  | merge {base overlay : Options} (h : Made base) (h' : Made overlay) :
      Made (base.merge overlay)
  | fieldOptions {o : Options} (h : Made o) : Made o.fieldOptions
  | typeOptions {o : Options} (h : Made o) : Made o.typeOptions
  | mapReferences {σ ε : Type} {f : String → StateT σ (Except ε) String} {o o' : Options}
      {st st' : σ} (h : Made o) (named : AlwaysNames f)
      (mapped : (o.mapReferences f).run st = .ok (o', st')) : Made o'

theorem Made.writable (h : Made o) : o.Writable := by
  induction h with
  | read h => exact writable_empty.addAll h
  | merge _ _ ih ih' => exact ih.merge ih'
  | fieldOptions _ _ => exact writable_fieldOptions _
  | typeOptions _ ih => exact ih.typeOptions
  | mapReferences _ named mapped ih => exact ih.toRegular.mapReferences named mapped

/-- However options were made, they are read back from the list that they are written as, and
what is read is written as the same list. -/
theorem exists_read_of_made (h : Made o) :
    ∃ read, ofList o.toList = .ok read ∧ read = o ∧ read.toList = o.toList :=
  ⟨o, ofList_toList h.writable, rfl, rfl⟩

def numbered (name : String) : StateT Nat (Except Unit) String := fun n =>
  if n < 10 then .ok (name ++ toString n, n + 1) else .error ()

theorem alwaysNames_numbered : AlwaysNames numbered := by
  intro name n answer n' h
  change (if n < 10 then Except.ok (name ++ toString n, n + 1) else .error ()) = _ at h
  split at h
  · cases h
    intro empty
    have digits := congrArg String.toList empty
    simp at digits
  · cases h

/-- Options with references in either role, a marker, an empty payload and items without a
meaning that occur twice, merged and with the references numbered. -/
theorem exists_read_of_made_numbered :
    ∃ o : Options, o.toList = ["[0", "*Port0", "##Kind1", "!", "~", "~", "?x"] ∧
      ∃ read, ofList o.toList = .ok read ∧ read = o ∧ read.toList = o.toList := by
  let base : Options := { minc := some 0, vtype := some "Host", unknown := ["~", "~"] }
  let overlay : Options :=
    { vtype := some "Port", enumeration := some "#Kind", defaultValue := some "",
      unknown := ["?x", "~"] }
  have readBase : Made base := @Made.read ["~", "[0", "*Host", "~"] base (by decide +kernel)
  have readOverlay : Made overlay :=
    @Made.read ["*Port", "?x", "##Kind", "~", "!"] overlay (by decide +kernel)
  have mapped : ((base.merge overlay).mapReferences numbered).run 0 =
      .ok ({ base.merge overlay with vtype := some "Port0", enumeration := some "#Kind1" }, 2) := by
    decide +kernel
  have made := (readBase.merge readOverlay).mapReferences alwaysNames_numbered mapped
  exact ⟨_, by decide +kernel, exists_read_of_made made⟩

end Making

end Options

end Jadn
