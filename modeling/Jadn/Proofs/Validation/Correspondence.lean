import Jadn.Expansion
import Jadn.Proofs.Likeness
import Jadn.Validation

/-!
Definitions of two schemas that correspond.

What is accepted depends on the names of definitions only through what they denote. Two
definitions correspond if they agree in everything but these names, and what they refer to is
again related. Values without parts are then accepted alike, and keys denote corresponding fields.
-/

set_option autoImplicit false

namespace Jadn

namespace Validation

section Primitives

variable {same : String → String → Prop} {d e : TypeDefinition}
  (agree : d.options.Agree same e.options)

theorem toOption_ofType {α : Type} (d : TypeDefinition) (result : Except ValidationError α) :
    (ofType d result).toOption = result.toOption :=
  Except.toOption_mapError _ _

include agree

theorem checkLength_agrees (length limit : Nat) (unit : String) :
    (checkLength d length limit unit).toOption = (checkLength e length limit unit).toOption := by
  unfold checkLength
  rw [agree.minv, agree.maxv]
  simp only [apply_ite Except.toOption, Except.toOption_error]

omit agree in
theorem checkBounds_agrees (count least most : Nat) :
    (checkBounds d count least most).toOption = (checkBounds e count least most).toOption := by
  simp only [checkBounds, apply_ite Except.toOption, Except.toOption_error]

theorem octets_agrees (v : Json) : (octets d v).toOption = (octets e v).toOption := by
  unfold octets
  rw [agree.format]
  split
  · rw [toOption_ofType, toOption_ofType]
  · split <;> rfl
  · rfl

theorem checkRange_agrees (n : Int) : (checkRange d n).toOption = (checkRange e n).toOption := by
  rw [checkRange, checkRange, agree.format]
  cases e.options.format with
  | none => rfl
  | some format => simp only [toOption_ofType]

theorem checkLeast_agrees (n : Int) : (checkLeast d n).toOption = (checkLeast e n).toOption := by
  rw [checkLeast, checkLeast, agree.minv]
  cases e.options.minv with
  | none => rfl
  | some least => simp only [apply_ite Except.toOption, Except.toOption_error]

theorem checkGreatest_agrees (n : Int) :
    (checkGreatest d n).toOption = (checkGreatest e n).toOption := by
  rw [checkGreatest, checkGreatest, agree.maxv]
  cases e.options.maxv.filter (· ≠ 0) with
  | none => rfl
  | some most => simp only [apply_ite Except.toOption, Except.toOption_error]

theorem checkInteger_agrees (v : Json) :
    (checkInteger d v).toOption = (checkInteger e v).toOption := by
  unfold checkInteger
  cases v.integer? with
  | none => rfl
  | some n =>
    simp only [Except.toOption_bind, checkRange_agrees agree, checkLeast_agrees agree,
      checkGreatest_agrees agree]

theorem checkNumber_agrees (v : Json) :
    (checkNumber d v).toOption = (checkNumber e v).toOption := by
  have most : Option.Rel (fun x y => (x == y) = true) (d.options.maxf.filter (!·.isZero))
      (e.options.maxf.filter (!·.isZero)) := by
    have bound := agree.maxf
    generalize d.options.maxf = a at bound ⊢
    generalize e.options.maxf = b at bound ⊢
    rcases bound with @⟨x, y, equal⟩ | _
    · rw [Option.filter_some, Option.filter_some, Binary64.isZero_of_beq equal]
      cases y.isZero with
      | false => exact .some equal
      | true => exact .none
    · exact .none
  have least := agree.minf
  unfold checkNumber
  rw [agree.format]
  generalize d.options.maxf.filter (!·.isZero) = a at most ⊢
  generalize e.options.maxf.filter (!·.isZero) = b at most ⊢
  generalize d.options.minf = a' at least ⊢
  generalize e.options.minf = b' at least ⊢
  cases v.number? with
  | none => rfl
  | some x =>
    rcases least with @⟨_, _, equal⟩ | _
    · have below := Binary64.lt_of_beq_right equal x
      rcases most with @⟨_, _, equal'⟩ | _
      · have above := Binary64.lt_of_beq_left equal' x
        cases e.options.format <;>
          simp only [Except.toOption_bind, toOption_ofType, apply_ite Except.toOption,
            Except.toOption_error, Except.toOption_pure, below, above]
      · cases e.options.format <;>
          simp only [Except.toOption_bind, toOption_ofType, apply_ite Except.toOption,
            Except.toOption_error, Except.toOption_pure, below]
    · rcases most with @⟨_, _, equal'⟩ | _
      · have above := Binary64.lt_of_beq_left equal' x
        cases e.options.format <;>
          simp only [Except.toOption_bind, toOption_ofType, apply_ite Except.toOption,
            Except.toOption_error, Except.toOption_pure, above]
      · cases e.options.format <;>
          simp only [Except.toOption_bind, toOption_ofType, Except.toOption_pure]

theorem checkEnumerated_agrees (items : d.items = e.items) (v : Json) :
    (checkEnumerated d v).toOption = (checkEnumerated e v).toOption := by
  unfold checkEnumerated
  rw [agree.byId, items]
  cases e.options.byId with
  | true =>
    cases v.int64? <;> simp only [Except.toOption_bind, apply_ite Except.toOption,
      Except.toOption_error, Except.toOption_ok, if_true]
  | false =>
    cases v.str? <;> simp only [Except.toOption_bind, apply_ite Except.toOption,
      Except.toOption_error, Except.toOption_ok, Bool.false_eq_true, if_false]

omit agree in
theorem checkBoolean_agrees (v : Json) :
    (checkBoolean d v).toOption = (checkBoolean e v).toOption := by
  unfold checkBoolean
  split <;> rfl

end Primitives

def Compiled (s : Schema) : Prop :=
  ∀ source p, s.patterns.lookup source = some p → Pattern.compileAnchored source = .ok p

theorem Compiled.toOption_pattern {s : Schema} (compiled : Compiled s) (d : TypeDefinition)
    (source : String) :
    (pattern s d source).toOption = (Pattern.compileAnchored source).toOption := by
  unfold pattern
  split
  · next p found => rw [compiled source p found]; rfl
  · split <;> simp_all [Except.toOption]

/-- The bounds that instances are checked against where their types set none. -/
structure SameBounds (s r : Schema) : Prop where
  limits : s.limits = r.limits
  binaryLimit : s.config.binaryLimit = r.config.binaryLimit
  stringLimit : s.config.stringLimit = r.config.stringLimit
  elementLimit : s.config.elementLimit = r.config.elementLimit

theorem SameBounds.of_eq {s r : Schema} (limits : s.limits = r.limits)
    (config : s.config = r.config) : SameBounds s r := by
  constructor <;> first | exact limits | rw [config]

structure SameLimits (s r : Schema) : Prop where
  limits : s.limits = r.limits
  config : (s.config == r.config) = true

theorem SameLimits.bounds {s r : Schema} (same : SameLimits s r) : SameBounds s r := by
  have config : s.config.same r.config = true := same.config
  simp only [Config.same, Bool.and_eq_true, beq_iff_eq] at config
  obtain ⟨⟨⟨⟨⟨⟨⟨binary, string⟩, elements⟩, -⟩, -⟩, -⟩, -⟩, -⟩ := config
  refine ⟨same.limits, ?_, ?_, ?_⟩
  · simp only [Config.binaryLimit, binary]
  · simp only [Config.stringLimit, string]
  · simp only [Config.elementLimit, elements]

section Schemas

variable {s r : Schema} (limits : SameBounds s r) {d e : TypeDefinition}
include limits

theorem checkCollection_agrees (count : Nat) :
    (checkCollection s d count).toOption = (checkCollection r e count).toOption := by
  unfold checkCollection
  rw [limits.limits]
  split <;> rfl

variable {same : String → String → Prop} (agree : d.options.Agree same e.options)
include agree

theorem checkSize_agrees (count : Nat) :
    (checkSize s d count).toOption = (checkSize r e count).toOption := by
  unfold checkSize
  rw [agree.minv, agree.maxv, limits.elementLimit]
  exact checkBounds_agrees _ _ _

theorem checkBinary_agrees (v : Json) :
    (checkBinary s d v).toOption = (checkBinary r e v).toOption := by
  unfold checkBinary
  rw [agree.format, limits.binaryLimit]
  have length := fun n => checkLength_agrees agree n r.config.binaryLimit "octets"
  cases e.options.format <;>
    simp only [Except.toOption_bind, toOption_ofType, octets_agrees agree, length]

theorem checkString_agrees (compiled : Compiled s) (compiled' : Compiled r) (v : Json) :
    (checkString s d v).toOption = (checkString r e v).toOption := by
  unfold checkString
  rw [agree.format, agree.pattern, limits.stringLimit]
  have length := fun n => checkLength_agrees agree n r.config.stringLimit "characters"
  cases v.str? with
  | none => rfl
  | some text =>
    cases e.options.format <;> cases e.options.pattern <;>
      simp only [Except.toOption_bind, toOption_ofType, compiled.toOption_pattern,
        compiled'.toOption_pattern, length]

end Schemas

structure FieldsCorrespond (s r : Schema) (R : TypeDefinition → TypeDefinition → Prop)
    (d e : TypeDefinition) (f g : Field) : Prop where
  id : f.id = g.id
  name : f.name = g.name
  minc : f.options.minc = g.options.minc
  maxc : f.options.maxc = g.options.maxc
  fieldType : Option.Rel R (s.fieldType? d.name f) (r.fieldType? e.name g)

/-- Definitions alike that refer to related ones. -/
structure Corresponds (s r : Schema) (R : TypeDefinition → TypeDefinition → Prop)
    (d e : TypeDefinition) : Prop where
  options : d.options.Agree (fun a b => Option.Rel R (s.lookup? a) (r.lookup? b)) e.options
  kind : d.kind.Alike (FieldsCorrespond s r R d e) e.kind

/-- A relation under which definitions of one schema are checked as those of another. -/
structure Simulation (s r : Schema) (R : TypeDefinition → TypeDefinition → Prop) : Prop where
  limits : SameBounds s r
  compiled : Compiled s
  compiled' : Compiled r
  corresponds : ∀ d e, R d e → Corresponds s r R d e

section Lists

variable {α β γ : Type} {F : α → β → Prop} {xs : List α} {ys : List β}

theorem rel_find? (h : List.Forall₂ F xs ys) {p : α → Bool} {q : β → Bool}
    (same : ∀ x y, F x y → p x = q y) : Option.Rel F (xs.find? p) (ys.find? q) := by
  induction h with
  | nil => exact .none
  | @cons x y _ _ head _ ih =>
    rw [List.find?_cons, List.find?_cons, same x y head]
    cases q y with
    | true => exact .some head
    | false => exact ih

theorem forall₂_zipIdx (h : List.Forall₂ F xs ys) (n : Nat) :
    List.Forall₂ (fun p q => F p.1 q.1 ∧ p.2 = q.2) (xs.zipIdx n) (ys.zipIdx n) := by
  induction h generalizing n with
  | nil => exact .nil
  | cons head _ ih => exact .cons ⟨head, rfl⟩ (ih (n + 1))

theorem forall₂_zip (h : List.Forall₂ F xs ys) (zs : List γ) :
    List.Forall₂ (fun p q => F p.1 q.1 ∧ p.2 = q.2) (xs.zip zs) (ys.zip zs) := by
  induction h generalizing zs with
  | nil => exact .nil
  | cons head _ ih =>
    cases zs with
    | nil => exact .nil
    | cons z zs => exact .cons ⟨head, rfl⟩ (ih zs)

theorem map_congr_of_forall₂ (h : List.Forall₂ F xs ys) {f : α → γ} {g : β → γ}
    (same : ∀ x y, F x y → f x = g y) : xs.map f = ys.map g := by
  induction h with
  | nil => rfl
  | cons head _ ih => rw [List.map_cons, List.map_cons, same _ _ head, ih]

end Lists

section Fields

variable {s r : Schema} {R : TypeDefinition → TypeDefinition → Prop} {d e : TypeDefinition}

namespace FieldsCorrespond

variable {f g : Field} (related : FieldsCorrespond s r R d e f g)
include related

theorem least : f.minc false = g.minc false := by
  unfold Field.minc
  rw [related.minc]

theorem isRequired : f.isRequired = g.isRequired := by
  unfold Field.isRequired
  rw [related.least]

theorem maxc? : f.maxc? = g.maxc? := by
  simp only [Field.maxc?, related.minc, related.maxc]

theorem isRepeated : f.isRepeated = g.isRepeated := by
  simp only [Field.isRepeated, related.maxc?]

theorem verboseKey (byId : Bool) : verboseKey f byId = verboseKey g byId := by
  simp only [Validation.verboseKey, related.id, related.name]

end FieldsCorrespond

namespace Corresponds

variable (related : Corresponds s r R d e)
include related

theorem fields : List.Forall₂ (FieldsCorrespond s r R d e) d.fields e.fields :=
  related.kind.fields

theorem fieldNamed? (name : String) :
    Option.Rel (FieldsCorrespond s r R d e) (d.fieldNamed? name) (e.fieldNamed? name) :=
  rel_find? related.fields fun f g alike => by rw [alike.name]

theorem fieldOfKey? (key : String) :
    Option.Rel (FieldsCorrespond s r R d e) (d.fieldOfKey? key) (e.fieldOfKey? key) := by
  have byId : Option.Rel (FieldsCorrespond s r R d e)
      ((Numeral.int64? key).bind d.fieldWithId?) ((Numeral.int64? key).bind e.fieldWithId?) := by
    cases Numeral.int64? key with
    | none => exact .none
    | some id => exact rel_find? related.fields fun f g alike => by rw [alike.id]
  have byName := related.fieldNamed? key
  unfold TypeDefinition.fieldOfKey?
  rw [related.options.byId]
  cases e.options.byId with
  | true => exact byId
  | false =>
    generalize d.fieldNamed? key = a at byName ⊢
    generalize e.fieldNamed? key = b at byName ⊢
    rcases byName with named | _
    · exact .some named
    · exact byId

end Corresponds

end Fields

end Validation

end Jadn
