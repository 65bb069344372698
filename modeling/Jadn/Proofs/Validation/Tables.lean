import Jadn.Proofs.Validation.Paths

/-!
The tables that are computed when a schema is built.

A field has the type that it refers to, with its own type options, whether its owner is declared or
is itself the type of a field. Every definition that validation is led to is declared, derived from
a declared one, built in, or the type of a field, so its pattern was compiled when the schema was
built: none is compiled during validation, and none turns out to be invalid there.
-/

set_option autoImplicit false

namespace Jadn

namespace Schema

/-- The fields of a definition, if it has any, are those of the declared type of its name. -/
def OwnsFields (s : Schema) (d : TypeDefinition) : Prop :=
  d.fields = [] ∨ ∃ e ∈ s.types, e.name = d.name ∧ e.fields = d.fields

/-- The pattern of a definition is in the table, compiled. -/
def KnowsPattern (s : Schema) (d : TypeDefinition) : Prop :=
  ∀ source, d.options.pattern = some source →
    ∃ p, s.patterns.lookup source = some p ∧ Pattern.compileAnchored source = .ok p

section Built

variable {s : Schema} (built : s.Built)
include built

theorem Built.knowsPattern {d : TypeDefinition}
    (listed : d ∈ s.types ++ s.fieldTypes.map Prod.snd) : s.KnowsPattern d := by
  intro source own
  obtain ⟨p, known⟩ := (exists_lookup_of_foldlM built.tables.patterns).2 d listed source own
  exact ⟨p, known, built.tables.compiled source p known⟩

theorem Built.knowsPattern_of_mem {d : TypeDefinition} (declared : d ∈ s.types) :
    s.KnowsPattern d :=
  built.knowsPattern (List.mem_append_left _ declared)

theorem Built.of_derives {key : String} {e : TypeDefinition}
    (derives : Extensions.Derives s.types key e) : s.OwnsFields e ∧ s.KnowsPattern e := by
  cases derives with
  | own declared _ =>
    exact ⟨.inl rfl, fun source own => built.knowsPattern_of_mem declared source own⟩
  | listed declared _ derived =>
    obtain ⟨⟨items, kind⟩, origin⟩ := TypeDefinition.toEnumeration_eq_ok derived
    refine ⟨.inl (by simp [TypeDefinition.fields, kind, Kind.fields]), ?_⟩
    rcases origin with rfl | ⟨-, options⟩
    · exact built.knowsPattern_of_mem declared
    · intro source own
      rw [options] at own
      cases own

theorem Built.of_lookup? {reference : String} {d : TypeDefinition}
    (found : s.lookup? reference = some d) : s.OwnsFields d ∧ s.KnowsPattern d := by
  refine resolve?_induction (P := fun d => s.OwnsFields d ∧ s.KnowsPattern d)
    built.tables.extensions (fun _ _ => built.of_derives) ?_ ?_ found
  · intro e declared
    exact ⟨.inr ⟨e, declared, rfl, rfl⟩, built.knowsPattern_of_mem declared⟩
  · intro base
    refine ⟨.inl ?_, nofun⟩
    cases base <;> rfl

theorem Built.of_denotes {d : TypeDefinition} (denoted : s.Denotes d) :
    s.OwnsFields d ∧ s.KnowsPattern d := by
  rcases denoted with ⟨reference, found⟩ | ⟨owner, f, found⟩
  · exact built.of_lookup? found
  · simp only [fieldType?, Option.orElse_eq_orElse, Option.orElse_eq_or,
      Option.or_eq_some_iff] at found
    rcases found with entry | ⟨-, plain⟩
    · have listed := mem_of_lookup entry
      refine ⟨?_, built.knowsPattern (List.mem_append_right _ (List.mem_map_of_mem listed))⟩
      obtain ⟨_, -, g, -, -, t, base, written⟩ := built.tables.mem_fieldTypes_iff.mp listed
      obtain rfl := (Prod.mk.inj written).2
      exact (built.of_lookup? base).1
    · exact built.of_lookup? plain

/-- The type of a field is looked up as if it were put together on demand. -/
theorem Built.fieldType?_eq {owner : TypeDefinition} (owned : s.OwnsFields owner) {f : Field}
    (hf : f ∈ owner.fields) :
    s.fieldType? owner.name f = (s.lookup? f.typeRef).map fun t =>
      if f.options.hasTypeOptions then t.refined t.name f.options.typeOptions else t := by
  rcases owned with none | ⟨e, declared, name, fields⟩
  · rw [none] at hf
    cases hf
  · rw [← fields] at hf
    rw [← name, built.tables.fieldType?_eq declared (built.wellFormed e declared).fieldNames hf]
    cases refines : f.options.hasTypeOptions with
    | true => rfl
    | false => simp only [TypeDefinition.refined_of_not_hasTypeOptions refines, Bool.false_eq_true,
        if_false]

end Built

end Schema

namespace Validation

variable {s : Schema}

section More

variable (extra : Dict Pattern)

/-- Patterns beyond those of the table are not looked at where the table has the pattern. -/
theorem pattern_append {d : TypeDefinition} {source : String} {p : Pattern}
    (known : s.patterns.lookup source = some p) :
    pattern { s with patterns := s.patterns ++ extra } d source = pattern s d source := by
  simp only [pattern, List.lookup_append, known, Option.some_or]

theorem checkLevel_append {inner : Checker} {d : TypeDefinition} (known : s.KnowsPattern d)
    (w : Json) :
    checkLevel { s with patterns := s.patterns ++ extra } inner d w = checkLevel s inner d w := by
  unfold checkLevel
  cases kind : d.kind with
  | string =>
    simp only [checkString]
    cases own : d.options.pattern with
    | none => rfl
    | some source =>
      obtain ⟨p, listed, -⟩ := known source own
      simp only [pattern_append extra listed]
      rfl
  | _ => rfl

theorem checkLevels_append (known : ∀ d, s.Denotes d → s.KnowsPattern d) (levels : Nat)
    {d : TypeDefinition} (denoted : s.Denotes d) (w : Json) :
    checkLevels { s with patterns := s.patterns ++ extra } levels d w =
      checkLevels s levels d w := by
  induction levels generalizing d w with
  | zero => rfl
  | succ levels ih =>
    rw [checkLevels, checkLevels, checkLevel_append extra (known d denoted)]
    exact checkLevel_congr fun t v step => ih (denotes_of_step step) v

end More

section Sound

def Sound (e : ValidationError) : Prop := blamesPattern e.violation = false

theorem Sound.ne {e : ValidationError} (sound : Sound e) (source : String) :
    e.violation ≠ .invalidPattern source := by
  intro same
  rw [Sound, same] at sound
  cases sound

def Spot.Denoted (s : Schema) : Spot → Prop
  | node d _ => s.Denotes d
  | field _ _ _ => True

theorem denoted_of_entrySpots {d k t : TypeDefinition}
    (keys : d.options.ktype.bind s.lookup? = some k)
    (type : d.options.vtype.bind s.lookup? = some t) {e : Json × Json} {b : Spot}
    (part : b ∈ entrySpots k t e) : b.Denoted s := by
  simp only [entrySpots, List.mem_cons, List.not_mem_nil, or_false] at part
  rcases part with rfl | rfl
  · exact Schema.denotes_of_bind keys
  · exact Schema.denotes_of_bind type

theorem denoted_of_part {a b : Spot} {segment : String}
    (part : Selects s a segment b ∨ Restates s a segment b) : b.Denoted s := by
  rcases part with selected | restated
  · cases selected with
    | element _ type _ => exact Schema.denotes_of_bind type
    | occurrence type _ _ => exact .inr ⟨_, _, type⟩
    | pair _ keys type _ _ part => exact denoted_of_entrySpots keys type part
    | entry _ keys type _ part => exact denoted_of_entrySpots keys type part
    | _ => trivial
  · cases restated with
    | entry _ keys type _ _ part => exact denoted_of_entrySpots keys type part

theorem sound_of_nodes {levels : Nat}
    (nodes : ∀ d, s.Denotes d → ∀ v, Except.FailsWith Sound (checkLevels s levels d v)) :
    ∀ a, Spot.Denoted s a → Except.FailsWith Sound (a.check s (checkLevels s levels))
  | .node d v, denoted => nodes d denoted v
  | .field owner f v, _ => by
    intro e failed
    rcases arises_checkField owner f v e failed with arises | ⟨t, type, -, here⟩
    · rcases arises with plain | ⟨segment, b, own, part, here, rfl⟩
      · exact plain.2
      · have denoted := denoted_of_part part
        rcases part with selected | restated
        · cases selected with
          | occurrence => exact nodes _ denoted _ own here
        · cases restated
    · exact nodes t (.inr ⟨_, _, type⟩) v e here

variable (known : ∀ d, s.Denotes d → s.KnowsPattern d)
include known

theorem sound_pattern {d : TypeDefinition} (denoted : s.Denotes d) {source : String}
    (own : d.options.pattern = some source) : Except.FailsWith Sound (pattern s d source) := by
  obtain ⟨p, listed, -⟩ := known d denoted source own
  simp only [pattern, listed]
  exact .ok p

/-- However deep a check goes, its error is not about an invalid pattern: the patterns that it meets
were compiled before. -/
theorem sound_check (levels : Nat) :
    ∀ a, Spot.Denoted s a → Except.FailsWith Sound (a.check s (checkLevels s levels)) := by
  induction levels with
  | zero =>
    refine sound_of_nodes fun d _ v e failed => ?_
    cases failed
    rfl
  | succ levels ih =>
    refine sound_of_nodes fun d denoted v e failed => ?_
    have arises := arises_checkLevel (P := Sound) (fun _ plain => plain.2)
      (fun _ => sound_pattern known denoted) v e failed
    rcases arises with sound | ⟨segment, b, own, part, here, rfl⟩
    · exact sound
    · exact ih b (denoted_of_part part) own here

end Sound

end Validation

namespace Schema

open Validation

/-- What a schema looks up is what it was built from says. The type of a field is found just where
what the field refers to is, and it is that with the type options of the field, if it has any; so it
is when the owner of the field is the type of another field. Every definition on a walk through an
instance has its pattern in the table, compiled: other patterns, whatever they are, change no
outcome, and no error says that a pattern is invalid. -/
theorem tables_on_demand {s : Schema} (built : s.Built) :
    (∀ owner, owner ∈ s.types ∨ s.Denotes owner → ∀ f ∈ owner.fields,
      s.fieldType? owner.name f = (s.lookup? f.typeRef).map fun t =>
        if f.options.hasTypeOptions then t.refined t.name f.options.typeOptions else t) ∧
    ∀ name v,
      (∀ d, s.lookup? name = some d → ∀ e w,
        Relation.ReflTransGen (Step s) (d, d.expand s v) (e, w) →
          ∀ source, e.options.pattern = some source →
            ∃ p, s.patterns.lookup source = some p ∧ Pattern.compileAnchored source = .ok p) ∧
      (∀ extra, validate { s with patterns := s.patterns ++ extra } name v = s.validate name v) ∧
      ∀ e, s.validate name v = .error e → ∀ source, e.violation ≠ .invalidPattern source := by
  have known : ∀ d, s.Denotes d → s.KnowsPattern d := fun d denoted => (built.of_denotes denoted).2
  refine ⟨fun owner origin f hf => ?_, fun name v => ⟨fun d found e w walked => ?_, fun extra => ?_,
    fun e failed => ?_⟩⟩
  · rcases origin with declared | denoted
    · exact built.fieldType?_eq (.inr ⟨owner, declared, rfl, rfl⟩) hf
    · exact built.fieldType?_eq (built.of_denotes denoted).1 hf
  · exact known e (denotes_of_walk (.inl ⟨name, found⟩) walked)
  · have looked : ({ s with patterns := s.patterns ++ extra } : Schema).lookup? name =
        s.lookup? name := rfl
    unfold validate
    rw [looked]
    cases found : s.lookup? name with
    | none => rfl
    | some d =>
      have levels := Expansion.expandLevels_congr (s := { s with patterns := s.patterns ++ extra })
        (r := s) rfl rfl (s.limits.maxDepth + 1)
      have verbose : d.expand { s with patterns := s.patterns ++ extra } v = d.expand s v :=
        congrFun (congrFun levels d) v
      simp only [check, verbose, checkLevels_append extra known _ (.inl ⟨name, found⟩)]
  · apply Sound.ne
    unfold validate at failed
    cases found : s.lookup? name with
    | none =>
      rw [found] at failed
      cases failed
      rfl
    | some d =>
      rw [found] at failed
      obtain ⟨own, here, rfl⟩ := Except.mapError_eq_error_iff.mp failed
      exact sound_check known _ (.node d (d.expand s v)) (.inl ⟨name, found⟩) own here

def parcel : TypeDefinition where
  name := "Parcel"
  options := {}
  description := ""
  kind := .record [
    { id := 1, name := "code", typeRef := "String", options := { pattern := some "[A-Z]+" },
      description := "" },
    { id := 2, name := "inner", typeRef := "Parcel",
      options := { minc := some 0, maxv := some 1 }, description := "" }]

/-- The types of the fields of parcels, and the codes that are no capital letters. -/
theorem tables_of_parcel :
    ∃ s, build {} [parcel] {} .entered = .ok s ∧ s.Built ∧
      (∀ f ∈ parcel.fields, s.fieldType? "Parcel" f = (s.lookup? f.typeRef).map fun t =>
        if f.options.hasTypeOptions then t.refined t.name f.options.typeOptions else t) ∧
      ∀ code e, s.validate "Parcel" (.obj [("code", code)]) = .error e →
        ∀ source, e.violation ≠ .invalidPattern source := by
  have formed : ∀ d ∈ [parcel], d.WellFormed := by decide
  have compiles : (build {} [parcel] {} .entered).isOk = true := by decide +kernel
  cases made : build {} [parcel] {} .entered with
  | error e =>
    rw [made] at compiles
    cases compiles
  | ok s =>
    have built := Built.of_build formed made
    obtain ⟨types, outcomes⟩ := tables_on_demand built
    have declared : parcel ∈ s.types := by
      rw [(tables_of_build made).types_eq]
      exact List.mem_singleton_self _
    exact ⟨s, rfl, built, types parcel (.inl declared),
      fun code => (outcomes "Parcel" (.obj [("code", code)])).2.2⟩

example : (build {} [parcel] {} .entered).toOption.map (fun s =>
      s.isValid "Parcel" (.obj [("code", .str "AB"), ("inner", .obj [("code", .str "C")])])) =
    some true := by decide +kernel

end Schema

end Jadn
