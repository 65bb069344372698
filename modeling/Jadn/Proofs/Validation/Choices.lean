import Jadn.Proofs.Expansion.Forms
import Jadn.Proofs.Validation.Collections

/-!
What a choice accepts.

An instance of a choice is the name of a field, or an object with one member, whose key denotes a
field and whose value is one for this field. Members are counted after expansion, which keeps
their number: it writes the key of each member anew, and leaves an object as it is if two of its
keys denote one field. So two members for one alternative are two members still.
-/

set_option autoImplicit false

namespace Jadn

namespace TypeDefinition

variable {d : TypeDefinition} {key : String} {f : Field}

/-- A key stands for the field of its name, or for the field with its number if no field has its
name. Where fields are denoted by ids, only numbers stand for fields. -/
def StandsFor (d : TypeDefinition) (key : String) (f : Field) : Prop :=
  f ∈ d.fields ∧ (d.options.byId = false ∧ key = f.name ∨
    Numeral.int64? key = some f.id ∧ (d.options.byId = true ∨ ∀ g ∈ d.fields, g.name ≠ key))

theorem WellFormed.standsFor_iff (formed : d.WellFormed) :
    d.StandsFor key f ↔ d.fieldOfKey? key = some f := by
  have numbered : (Numeral.int64? key).bind d.fieldWithId? = some f ↔
      f ∈ d.fields ∧ Numeral.int64? key = some f.id := by
    simp only [Option.bind_eq_some_iff, formed.fieldWithId?_eq_some_iff]
    constructor
    · rintro ⟨_, read, hf, rfl⟩
      exact ⟨hf, read⟩
    · exact fun ⟨hf, read⟩ => ⟨f.id, read, hf, rfl⟩
  unfold StandsFor
  cases mode : d.options.byId with
  | true =>
    rw [fieldOfKey?_of_byId mode, numbered]
    simp
  | false =>
    rw [fieldOfKey?_of_byName mode, Option.or_eq_some_iff, formed.fieldNamed?_eq_some_iff, numbered,
      fieldNamed?_eq_none_iff]
    simp only [true_and, Bool.false_eq_true, false_or]
    tauto

end TypeDefinition

namespace Validation

open Expansion

variable {s : Schema} {inner : Checker} {d : TypeDefinition}

def Misshapen (outcome : Outcome) : Prop := ∃ e, outcome = .error e ∧ e.kind = .shape

theorem Misshapen.under {outcome : Outcome} (segment : String) (misshapen : Misshapen outcome) :
    Misshapen (under segment outcome) := by
  obtain ⟨e, rfl, kind⟩ := misshapen
  exact ⟨e.under segment, rfl, kind⟩

/-- How a choice judges instances, given which values it accepts for a field. -/
structure JudgesChoice (d : TypeDefinition) (accepts : Field → Json → Prop)
    (judge : Json → Outcome) : Prop where
  named : ∀ text, judge (.str text) = .ok () ↔ ∃ f ∈ d.fields, f.name = text
  alternative : ∀ key member, judge (.obj [(key, member)]) = .ok () ↔
    ∃ f, d.StandsFor key f ∧ accepts f member
  undeclared : ∀ key member, (∀ f, ¬ d.StandsFor key f) →
    Misshapen (judge (.obj [(key, member)]))
  count : ∀ members : Dict Json, members.length ≠ 1 → Misshapen (judge (.obj members))
  misnamed : ∀ text, (∀ f ∈ d.fields, f.name ≠ text) → Misshapen (judge (.str text))
  other : ∀ v : Json, v.str? = none → v.obj? = none → Misshapen (judge v)

theorem JudgesChoice.under {accepts : Field → Json → Prop} {judge : Json → Outcome}
    (judges : JudgesChoice d accepts judge) (segment : String) :
    JudgesChoice d accepts fun v => under segment (judge v) where
  named text := under_eq_ok_iff.trans (judges.named text)
  alternative key member := under_eq_ok_iff.trans (judges.alternative key member)
  undeclared key member unknown := (judges.undeclared key member unknown).under segment
  count members several := (judges.count members several).under segment
  misnamed text unknown := (judges.misnamed text unknown).under segment
  other v text object := (judges.other v text object).under segment

section Verbose

theorem checkChoice_of_length_ne_one {members : Dict Json} (several : members.length ≠ 1) :
    Misshapen (checkChoice s inner d (.obj members)) := by
  match members, several with
  | [], _ => exact ⟨_, rfl, rfl⟩
  | _ :: _ :: _, _ => exact ⟨_, rfl, rfl⟩

theorem checkChoice_of_undeclared {key : String} (unknown : d.fieldOfKey? key = none)
    (member : Json) : Misshapen (checkChoice s inner d (.obj [(key, member)])) := by
  rw [checkChoice, unknown]
  exact ⟨_, rfl, rfl⟩

theorem checkChoice_single_eq_ok_iff {key : String} {member : Json} :
    checkChoice s inner d (.obj [(key, member)]) = .ok () ↔
      ∃ f, d.fieldOfKey? key = some f ∧ checkField s inner d f member = .ok () := by
  rw [checkChoice]
  cases d.fieldOfKey? key with
  | none => simp
  | some f => simp [under_eq_ok_iff]

theorem checkChoice_str (text : String) : checkChoice s inner d (.str text) =
    if (d.fieldNamed? text).isSome then .ok ()
    else .error (notOfForm d "an object with one alternative" (.str text)) := rfl

theorem checkChoice_of_other {v : Json} (text : v.str? = none) (object : v.obj? = none) :
    Misshapen (checkChoice s inner d v) := by
  cases v with
  | str _ => cases text
  | obj _ => cases object
  | _ => exact ⟨_, rfl, rfl⟩

end Verbose

section Expanded

variable {expander : Expander} (kind : d.baseType = .choice)
include kind

theorem expandLevel_choice_of_not_obj {v : Json} (object : v.obj? = none) :
    expandLevel s expander d v = v := by
  cases v with
  | obj _ => cases object
  | _ => simp only [expandLevel, kind_of_choice kind]

theorem expandLevel_choice_single (key : String) (member : Json) :
    expandLevel s expander d (.obj [(key, member)]) =
      .obj [expandMember d (expandField s expander d) (key, member)] := by
  have single : repeatsField d [(key, member)] = false := by
    cases found : d.fieldOfKey? key <;> simp [repeatsField, found]
  rw [expandLevel_of_members (Or.inl kind), expandObject, single]
  rfl

theorem exists_expandLevel_choice (members : Dict Json) :
    ∃ ms : Dict Json, expandLevel s expander d (.obj members) = .obj ms ∧
      ms.length = members.length := by
  rw [expandLevel_of_members (Or.inl kind), expandObject]
  cases repeatsField d members with
  | true => exact ⟨members, rfl, rfl⟩
  | false => exact ⟨_, rfl, List.length_map _⟩

/-- A level of a choice is judged by its one alternative, whatever checks and expands the levels
further in. -/
theorem judgesChoice_checkLevel (formed : d.WellFormed) :
    JudgesChoice d
      (fun f v => checkField s inner d f (expandField s expander d f v) = .ok ())
      (fun v => checkLevel s inner d (expandLevel s expander d v)) := by
  have kept : ∀ v : Json, v.obj? = none →
      checkLevel s inner d (expandLevel s expander d v) = checkChoice s inner d v := by
    intro v object
    rw [expandLevel_choice_of_not_obj kind object, checkLevel_of_choice kind]
  have single : ∀ key member,
      checkLevel s inner d (expandLevel s expander d (.obj [(key, member)])) =
        checkChoice s inner d (.obj [expandMember d (expandField s expander d) (key, member)]) := by
    intro key member
    rw [expandLevel_choice_single kind, checkLevel_of_choice kind]
  refine { named := fun text => ?_, alternative := fun key member => ?_,
           undeclared := fun key member unknown => ?_, count := fun members several => ?_,
           misnamed := fun text unknown => ?_, other := fun v text object => ?_ }
  · rw [kept _ rfl, checkChoice_str]
    cases found : d.fieldNamed? text with
    | none => simpa using TypeDefinition.fieldNamed?_eq_none_iff.mp found
    | some f =>
      obtain ⟨hf, same⟩ := formed.fieldNamed?_eq_some_iff.mp found
      simpa using ⟨f, hf, same.symm⟩
  · -- The member is checked under its new key, which denotes what the old one does.
    have key' := fieldOfKey?_expandMember formed (expandField s expander d) (key, member)
    rw [single]
    change checkChoice s inner d (.obj [((expandMember d _ (key, member)).1,
      (expandMember d _ (key, member)).2)]) = .ok () ↔ _
    rw [checkChoice_single_eq_ok_iff, key']
    simp only [formed.standsFor_iff]
    refine exists_congr fun f => and_congr_right fun found => ?_
    simp only [expandMember, found]
  · have none : d.fieldOfKey? key = none :=
      Option.eq_none_iff_forall_ne_some.mpr fun f found => unknown f (formed.standsFor_iff.mpr found)
    rw [single]
    simp only [expandMember, none]
    exact checkChoice_of_undeclared none member
  · obtain ⟨ms, made, length⟩ : ∃ ms : Dict Json,
        expandLevel s expander d (.obj members) = .obj ms ∧ ms.length = members.length :=
      exists_expandLevel_choice kind members
    rw [made, checkLevel_of_choice kind]
    exact checkChoice_of_length_ne_one (length ▸ several)
  · rw [kept _ rfl, checkChoice_str, TypeDefinition.fieldNamed?_eq_none_iff.mpr unknown]
    exact ⟨_, rfl, rfl⟩
  · rw [kept v object]
    exact checkChoice_of_other text object

end Expanded

end Validation

namespace Schema

open Expansion Validation

variable {s : Schema} {d : TypeDefinition}

/-- A field of a type at a depth takes a value if the verbose form of the value passes the check of
the field. -/
def Takes (s : Schema) (d : TypeDefinition) (depth : Nat) (f : Field) (v : Json) : Prop :=
  checkField s (fun t w => s.check t w (depth + 1)) d f
    (expandField s (expandLevels s (s.limits.maxDepth - depth)) d f v) = .ok ()

/-- A choice is judged by its one alternative, as the type of a whole instance and wherever it
stands inside one. -/
theorem Built.validate_choice (built : s.Built) (kind : d.baseType = .choice) :
    (∀ name, s.lookup? name = some d → JudgesChoice d (s.Takes d 0) (s.validate name)) ∧
      (s.Denotes d → ∀ depth ≤ s.limits.maxDepth, JudgesChoice d (s.Takes d depth)
        fun v => s.check d (expandLevels s (s.limits.maxDepth + 1 - depth) d v) depth) := by
  have inside : s.Denotes d → ∀ depth ≤ s.limits.maxDepth, JudgesChoice d (s.Takes d depth)
      fun v => s.check d (expandLevels s (s.limits.maxDepth + 1 - depth) d v) depth := by
    intro denoted depth within
    have levels : s.limits.maxDepth + 1 - depth = s.limits.maxDepth - depth + 1 := by omega
    have further : checkLevels s (s.limits.maxDepth - depth) =
        fun t w => s.check t w (depth + 1) := by
      funext t w
      rw [check, Nat.add_sub_add_right]
    simp only [check, levels, checkLevels, expandLevels, further]
    exact judgesChoice_checkLevel kind (built.wellFormed_of_denotes denoted)
  refine ⟨fun name found => ?_, inside⟩
  have whole : s.validate name = fun v =>
      under name (s.check d (expandLevels s (s.limits.maxDepth + 1 - 0) d v) 0) := by
    funext v
    rw [validate, found]
    rfl
  rw [whole]
  exact (inside (Or.inl ⟨name, found⟩) 0 (Nat.zero_le _)).under name

def signal : TypeDefinition where
  name := "Signal"
  options := {}
  description := ""
  kind := .enumerated [⟨1, "go", ""⟩, ⟨2, "stop", ""⟩]

def notice : TypeDefinition where
  name := "Notice"
  options := {}
  description := ""
  kind := .choice [.new 1 "text" "String", .new 2 "signal" "Signal"]

def code : TypeDefinition := { notice with name := "Code", options := { byId := true } }

def notices : Schema where
  info := {}
  types := [signal, notice, code]
  limits := {}
  extensions := []
  fieldTypes := []
  patterns := []

theorem notices_built : notices.Built := ⟨by decide, .entered, rfl⟩

/-- A number stands for a field of both choices, a name only for one of the first; a field that is
given by its name and by its number is given twice. -/
theorem validate_choice_notice :
    notices.Built ∧ notices.lookup? "Notice" = some notice ∧ notices.lookup? "Code" = some code ∧
      notice.baseType = .choice ∧ code.baseType = .choice ∧
      notices.validate "Notice" (.obj [("+2", .int 1)]) = .ok () ∧
      notices.validate "Code" (.obj [("2", .int 1)]) = .ok () ∧
      notices.validate "Code" (.str "text") = .ok () ∧
      Misshapen (notices.validate "Notice" (.obj [("text", .str "a"), ("1", .str "b")])) ∧
      Misshapen (notices.validate "Code" (.obj [("text", .str "a")])) ∧
      Misshapen (notices.validate "Notice" (.arr [.str "text"])) := by
  have found : notices.lookup? "Notice" = some notice := rfl
  have found' : notices.lookup? "Code" = some code := rfl
  have byName := (notices_built.validate_choice (d := notice) rfl).1 "Notice" found
  have byId := (notices_built.validate_choice (d := code) rfl).1 "Code" found'
  have numbered : notice.StandsFor "+2" (.new 2 "signal" "Signal") :=
    ⟨.tail _ (.head _), .inr ⟨by decide, .inr (by decide)⟩⟩
  have numbered' : code.StandsFor "2" (.new 2 "signal" "Signal") :=
    ⟨.tail _ (.head _), .inr ⟨by decide, .inl rfl⟩⟩
  have nameless : ∀ f, ¬ code.StandsFor "text" f := by
    rintro f ⟨-, ⟨mode, -⟩ | ⟨read, -⟩⟩
    · cases mode
    · cases read
  refine ⟨notices_built, found, found', rfl, rfl, (byName.alternative ..).mpr ⟨_, numbered, rfl⟩,
    (byId.alternative ..).mpr ⟨_, numbered', rfl⟩, (byId.named "text").mpr ?_,
    byName.count _ (by decide), byId.undeclared _ _ nameless, byName.other _ rfl rfl⟩
  exact ⟨.new 1 "text" "String", .head _, rfl⟩

end Schema

end Jadn
