import Jadn.Proofs.Validation.Collections

/-!
The errors that the checks of values without parts give.

They name no part of the value, and only those of texts that are matched against a pattern may say
that a pattern is invalid.
-/

set_option autoImplicit false

namespace Jadn.Validation

open Except (FailsWith)

def blamesPattern : Violation → Bool
  | .invalidPattern _ => true
  | _ => false

/-- An error that names no part of the value and does not say that a pattern is invalid. -/
def Plain (e : ValidationError) : Prop :=
  e.path = [] ∧ blamesPattern e.violation = false

theorem plain_ofType {α : Type} {x : Except ValidationError α} (plain : FailsWith Plain x)
    (d : TypeDefinition) : FailsWith Plain (ofType d x) :=
  .mapError plain

section Formats

open Format

theorem plain_checkString (format text : String) :
    FailsWith Plain (Format.checkString format text) := by
  unfold Format.checkString
  split
  · exact .error ⟨rfl, rfl⟩
  · exact .ite (.ok _) (.error ⟨rfl, rfl⟩)

theorem plain_decodeOctets (format? : Option String) (text : String) :
    FailsWith Plain (decodeOctets format? text) := by
  unfold decodeOctets
  split
  case h_7 => exact .error ⟨rfl, rfl⟩
  all_goals
    dsimp only
    split
    · exact .ok _
    · exact .error ⟨rfl, rfl⟩

theorem plain_checkOctets (format : String) (length : Nat) :
    FailsWith Plain (Format.checkLength format length) := by
  unfold Format.checkLength
  split
  · exact .error ⟨rfl, rfl⟩
  · exact .ite (.ok _) (.error ⟨rfl, rfl⟩)

theorem plain_checkRange (format : String) (n : Int) :
    FailsWith Plain (Format.checkInteger format n) := by
  unfold Format.checkInteger
  split
  · exact .error ⟨rfl, rfl⟩
  · exact .ite (.ok _) (.error ⟨rfl, rfl⟩)

theorem plain_checkReal (format : String) : FailsWith Plain (Format.checkNumber format) :=
  .ite (.ok _) (.error ⟨rfl, rfl⟩)

theorem plain_checkPattern (p : Pattern) (text : String) :
    FailsWith Plain (Format.checkPattern p text) :=
  .ite (.ok _) (.error ⟨rfl, rfl⟩)

theorem plain_networkParts (format : String) (v : Json) :
    FailsWith Plain (networkParts format v) := by
  unfold networkParts
  repeat' split
  all_goals first
    | exact .ok _
    | exact .error ⟨rfl, rfl⟩

end Formats

section Primitives

variable {s : Schema} {d : TypeDefinition}

theorem plain_checkLength (length limit : Nat) (unit : String) :
    FailsWith Plain (checkLength d length limit unit) :=
  .ite (.error ⟨rfl, rfl⟩) (.ite (.error ⟨rfl, rfl⟩) (.ok _))

theorem plain_checkBounds (count least most : Nat) :
    FailsWith Plain (checkBounds d count least most) :=
  .ite (.error ⟨rfl, rfl⟩) (.ite (.error ⟨rfl, rfl⟩) (.ok _))

theorem plain_checkCollection (count : Nat) : FailsWith Plain (checkCollection s d count) := by
  unfold checkCollection
  split
  · exact .ok _
  · exact .error ⟨rfl, rfl⟩

theorem plain_octets (v : Json) : FailsWith Plain (octets d v) := by
  unfold octets
  split
  · exact plain_ofType (plain_decodeOctets _ _) d
  · split
    · exact .ok _
    · exact .error ⟨rfl, rfl⟩
  · exact .error ⟨rfl, rfl⟩

theorem plain_checkBinary (v : Json) : FailsWith Plain (checkBinary s d v) := by
  refine (plain_octets v).bind fun _ _ => ?_
  dsimp only
  split
  · exact (plain_ofType (plain_checkOctets _ _) d).bind fun _ _ => plain_checkLength _ _ _
  · exact plain_checkLength _ _ _

theorem plain_checkInteger (v : Json) : FailsWith Plain (checkInteger d v) := by
  have range : ∀ n, FailsWith Plain (checkRange d n) := fun n => by
    unfold checkRange
    split
    · exact plain_ofType (plain_checkRange _ _) d
    · exact .ok _
  have least : ∀ n, FailsWith Plain (checkLeast d n) := fun n => by
    unfold checkLeast
    split
    · exact .ite (.error ⟨rfl, rfl⟩) (.ok _)
    · exact .ok _
  have greatest : ∀ n, FailsWith Plain (checkGreatest d n) := fun n => by
    unfold checkGreatest
    split
    · exact .ite (.error ⟨rfl, rfl⟩) (.ok _)
    · exact .ok _
  unfold checkInteger
  split
  · exact (range _).bind fun _ _ => (least _).bind fun _ _ => greatest _
  · exact .error ⟨rfl, rfl⟩

theorem plain_checkNumber (v : Json) : FailsWith Plain (checkNumber d v) := by
  unfold checkNumber
  split
  · dsimp only
    repeat' first
      | exact .ok _
      | exact .error ⟨rfl, rfl⟩
      | exact plain_ofType (plain_checkReal _) d
      | refine FailsWith.bind ?_ fun _ _ => ?_
      | split
  · exact .error ⟨rfl, rfl⟩

theorem plain_checkEnumerated (v : Json) : FailsWith Plain (checkEnumerated d v) := by
  have verdict : ∀ isItem : Bool,
      FailsWith Plain (if isItem then .ok () else .error (violationBy d .undeclaredItem v) :
        Outcome) :=
    fun _ => .ite (.ok _) (.error ⟨rfl, rfl⟩)
  unfold checkEnumerated
  dsimp only
  split
  all_goals
    split
    · exact verdict _
    · exact .error ⟨rfl, rfl⟩

theorem own_pattern (source : String) : FailsWith (·.path = []) (pattern s d source) := by
  unfold pattern
  split
  · exact .ok _
  · split
    · exact .ok _
    · exact .error rfl

variable {P : ValidationError → Prop} (plain : ∀ e, Plain e → P e)
  (compiled : ∀ source, d.options.pattern = some source → FailsWith P (pattern s d source))
include plain compiled

theorem failsWith_checkText (v : Json) : FailsWith P (checkString s d v) := by
  have length : ∀ text : String, FailsWith P
      (checkLength d text.length s.config.stringLimit "characters") :=
    fun _ => (plain_checkLength _ _ _).mono plain
  have formed : ∀ format text, FailsWith P (ofType d (Format.checkString format text)) :=
    fun _ _ => (plain_ofType (plain_checkString _ _) d).mono plain
  have matched : ∀ p text, FailsWith P (ofType d (Format.checkPattern p text)) :=
    fun p text => (plain_ofType (plain_checkPattern p text) d).mono plain
  unfold checkString
  cases v.str? with
  | none => exact (FailsWith.error ⟨rfl, rfl⟩).mono plain
  | some text =>
    cases own : d.options.pattern with
    | none =>
      cases d.options.format with
      | none => exact length text
      | some format => exact (formed format text).bind fun _ _ => length text
    | some source =>
      have rest := (compiled source own).bind fun p _ =>
        (matched p text).bind fun _ _ => length text
      cases d.options.format with
      | none => exact rest
      | some format => exact (formed format text).bind fun _ _ => rest

/-- The check of a value without parts names none. -/
theorem failsWith_checkLevel (inner : Checker)
    (simple : d.isPrimitive = true ∨ d.isEnumeration = true) (v : Json) :
    FailsWith P (checkLevel s inner d v) := by
  unfold checkLevel
  cases kind : d.kind with
  | binary => exact (plain_checkBinary v).mono plain
  | boolean =>
    cases v with
    | bool _ => exact .ok _
    | _ => exact .error (plain _ ⟨rfl, rfl⟩)
  | integer => exact (plain_checkInteger v).mono plain
  | number => exact (plain_checkNumber v).mono plain
  | string => exact failsWith_checkText plain compiled v
  | enumerated items => exact (plain_checkEnumerated v).mono plain
  | _ =>
    simp [TypeDefinition.isPrimitive, TypeDefinition.isEnumeration, TypeDefinition.baseType, kind,
      Kind.baseType, BaseType.isPrimitive] at simple

end Primitives

end Jadn.Validation
