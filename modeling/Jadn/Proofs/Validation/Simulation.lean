import Jadn.Proofs.Validation.Correspondence

/-!
Simulations between schemas.

Under a relation whose members correspond, instances have the same verbose forms and are accepted
alike, at every level.
-/

set_option autoImplicit false

namespace Jadn

namespace Validation

section Expanding

open Expansion

variable {s r : Schema} {R : TypeDefinition → TypeDefinition → Prop} {d e : TypeDefinition}
  {inner inner' : Expander} (related : Corresponds s r R d e)
  (further : ∀ d e, R d e → ∀ v, inner d v = inner' e v)
include related further

omit related in
theorem expandField_eq {f g : Field} (alike : FieldsCorrespond s r R d e f g) (v : Json) :
    expandField s inner d f v = expandField r inner' e g v := by
  have types := alike.fieldType
  unfold expandField
  rw [alike.isRepeated]
  generalize s.fieldType? d.name f = a at types ⊢
  generalize r.fieldType? e.name g = b at types ⊢
  rcases types with @⟨t, u, same⟩ | _
  · have each : inner t = inner' u := funext (further t u same)
    simp only [each]
  · rfl

theorem expandMember_eq (member : String × Json) :
    expandMember d (expandField s inner d) member =
      expandMember e (expandField r inner' e) member := by
  obtain ⟨key, v⟩ := member
  have fields := related.fieldOfKey? key
  simp only [expandMember, related.options.byId]
  generalize d.fieldOfKey? key = a at fields ⊢
  generalize e.fieldOfKey? key = b at fields ⊢
  rcases fields with @⟨f, g, alike⟩ | _
  · simp only [alike.name, expandField_eq further alike]
  · rfl

omit further in
theorem repeatsField_eq (members : Dict Json) : repeatsField d members = repeatsField e members := by
  have ids : ∀ key, (d.fieldOfKey? key).map Field.id = (e.fieldOfKey? key).map Field.id := by
    intro key
    have fields := related.fieldOfKey? key
    generalize d.fieldOfKey? key = a at fields ⊢
    generalize e.fieldOfKey? key = b at fields ⊢
    rcases fields with @⟨f, g, alike⟩ | _
    · simp only [Option.map_some, alike.id]
    · rfl
  simp only [repeatsField, ids]

omit related in
theorem expandValues_eq {fs gs : List Field}
    (alike : List.Forall₂ (FieldsCorrespond s r R d e) fs gs) (values : List Json) :
    expandValues (expandField s inner d) fs values =
      expandValues (expandField r inner' e) gs values := by
  induction alike generalizing values with
  | nil => rfl
  | cons head _ ih =>
    cases values with
    | nil => rfl
    | cons v values =>
      have rest := ih values
      simp only [expandValues] at rest ⊢
      simp only [List.zip_cons_cons, List.filterMap_cons, head.name, expandField_eq further head,
        rest]

omit related in
theorem expandPlaces_eq {fs gs : List Field}
    (alike : List.Forall₂ (FieldsCorrespond s r R d e) fs gs) (values : List Json) :
    expandPlaces (expandField s inner d) fs values =
      expandPlaces (expandField r inner' e) gs values := by
  induction alike generalizing values with
  | nil => cases values <;> rfl
  | cons head _ ih =>
    cases values with
    | nil => rfl
    | cons v values => simp only [expandPlaces, expandField_eq further head, ih]

theorem elementType_cases :
    (elementType? s d = none ∧ elementType? r e = none) ∨
      ∃ t u, elementType? s d = some t ∧ elementType? r e = some u ∧ inner t = inner' u := by
  have elements := related.options.vtype
  unfold elementType?
  generalize d.options.vtype = a at elements ⊢
  generalize e.options.vtype = b at elements ⊢
  rcases elements with @⟨x, y, types⟩ | _
  · simp only [Option.bind_some]
    generalize s.lookup? x = a at types ⊢
    generalize r.lookup? y = b at types ⊢
    rcases types with @⟨t, u, same⟩ | _
    · exact Or.inr ⟨t, u, rfl, rfl, funext (further t u same)⟩
    · exact Or.inl ⟨rfl, rfl⟩
  · exact Or.inl ⟨rfl, rfl⟩

theorem expandLevel_eq (v : Json) : expandLevel s inner d v = expandLevel r inner' e v := by
  have kinds := related.kind
  have elements := elementType_cases related further
  unfold expandLevel
  simp only [repeatsField_eq related, funext (expandMember_eq related further),
    related.options.byId]
  generalize d.kind = k at kinds ⊢
  generalize e.kind = k' at kinds ⊢
  cases kinds with
  | array h => cases v <;> simp only [expandPlaces_eq further h]
  | record h => cases v <;> simp only [expandValues_eq further h, h.length_eq]
  | arrayOf | mapOf =>
    rcases elements with ⟨undefined, undefined'⟩ | ⟨t, u, found, found', same⟩
    · cases v <;> simp only [undefined, undefined']
    · cases v <;> simp only [found, found', same]
  | _ => cases v <;> rfl

end Expanding

section Checking

variable {s r : Schema} {R : TypeDefinition → TypeDefinition → Prop} {d e : TypeDefinition}
  {inner inner' : Checker}

theorem toOption_under (segment : String) (outcome : Outcome) :
    (under segment outcome).toOption = outcome.toOption :=
  Except.toOption_mapError _ _

section Agreeing

variable (limits : SameBounds s r) (related : Corresponds s r R d e)
  (further : ∀ d e, R d e → ∀ v, (inner d v).toOption = (inner' e v).toOption)
include limits further

omit limits further in
theorem elements_agree {check check' : Json → Outcome}
    (each : ∀ v, (check v).toOption = (check' v).toOption) (values : List Json) :
    (values.zipIdx.forM fun (v, i) => under (toString i) (check v)).toOption =
      (values.zipIdx.forM fun (v, i) => under (toString i) (check' v)).toOption :=
  Except.toOption_forM_eq values.zipIdx fun p => by simp only [toOption_under, each]

theorem checkField_agrees {f g : Field} (alike : FieldsCorrespond s r R d e f g) (v : Json) :
    (checkField s inner d f v).toOption = (checkField r inner' e g v).toOption := by
  have types := alike.fieldType
  unfold checkField
  rw [alike.isRepeated, alike.least, alike.maxc?, limits.elementLimit]
  generalize s.fieldType? d.name f = a at types ⊢
  generalize r.fieldType? e.name g = b at types ⊢
  rcases types with @⟨t, u, same⟩ | _
  · have each := further t u same
    cases v.arr? with
    | none => simp only [apply_ite Except.toOption, each, Except.toOption_error]
    | some values =>
      simp only [apply_ite Except.toOption, each, Except.toOption_error, elements_agree each]
  · rfl

include related

theorem checkChoice_agrees (v : Json) :
    (checkChoice s inner d v).toOption = (checkChoice r inner' e v).toOption := by
  unfold checkChoice
  split
  · next name =>
    have named := related.fieldNamed? name
    generalize d.fieldNamed? name = a at named ⊢
    generalize e.fieldNamed? name = b at named ⊢
    rcases named with named | _ <;> rfl
  · next key member =>
    have fields := related.fieldOfKey? key
    generalize d.fieldOfKey? key = a at fields ⊢
    generalize e.fieldOfKey? key = b at fields ⊢
    rcases fields with alike | _
    · simp only [toOption_under, checkField_agrees limits further alike]
    · rfl
  · rfl
  · rfl

omit limits further related in
theorem lastRequired_eq {fs gs : List Field}
    (alike : List.Forall₂ (FieldsCorrespond s r R d e) fs gs) :
    lastRequired fs = lastRequired gs := by
  have ends : ∀ {fs gs : List Field}, List.Forall₂ (FieldsCorrespond s r R d e) fs gs →
      (fs.dropWhile (!·.isRequired)).length = (gs.dropWhile (!·.isRequired)).length := by
    intro fs gs alike
    induction alike with
    | nil => rfl
    | @cons f g fs gs head tail ih =>
      rw [List.dropWhile_cons, List.dropWhile_cons, head.isRequired]
      cases g.isRequired with
      | true => simp [tail.length_eq]
      | false => simpa using ih
  exact ends (List.forall₂_reverse_iff.mpr alike)

omit limits further related in
theorem required_agree {fs gs : List Field}
    (alike : List.Forall₂ (FieldsCorrespond s r R d e) fs gs) (values : List Json) :
    (fs.zipIdx.forM fun (f, i) => if f.isRequired && (present? values[i]?).isNone then
        .error (missingField d f) else .ok () : Outcome).toOption =
      (gs.zipIdx.forM fun (f, i) => if f.isRequired && (present? values[i]?).isNone then
        .error (missingField e f) else .ok () : Outcome).toOption := by
  refine Except.toOption_forM_congr (forall₂_zipIdx alike 0) fun p q same => ?_
  simp only [apply_ite Except.toOption, same.1.isRequired, same.2, Except.toOption_error]

omit related in
theorem places_agree {fs gs : List Field}
    (alike : List.Forall₂ (FieldsCorrespond s r R d e) fs gs) (values : List Json) :
    ((fs.zip values).forM fun (f, v) =>
        if v.isNull then .ok () else under f.name (checkField s inner d f v) : Outcome).toOption =
      ((gs.zip values).forM fun (f, v) =>
        if v.isNull then .ok () else under f.name (checkField r inner' e f v) :
          Outcome).toOption := by
  refine Except.toOption_forM_congr (forall₂_zip alike values) fun p q same => ?_
  simp only [apply_ite Except.toOption, toOption_under, same.2,
    checkField_agrees limits further same.1]

omit limits further in
theorem placesOf_agrees (v : Json) : (placesOf d v).toOption = (placesOf e v).toOption := by
  rw [placesOf, placesOf, related.options.format]
  cases e.options.format with
  | none => rfl
  | some format => simp only [toOption_ofType]

theorem checkPlaces_agrees {fs gs : List Field}
    (alike : List.Forall₂ (FieldsCorrespond s r R d e) fs gs) (v : Json) :
    (checkPlaces s inner d fs v).toOption = (checkPlaces r inner' e gs v).toOption := by
  have required := required_agree alike
  have checked := places_agree limits further alike
  have bounds := fun count => checkBounds_agrees (d := d) (e := e) count
  unfold checkPlaces
  rw [related.options.minv, related.options.maxv, lastRequired_eq alike, alike.length_eq]
  cases v.arr? with
  | none => rfl
  | some values =>
    simp only [apply_ite Except.toOption, Except.toOption_bind, Except.toOption_error, required,
      checked, bounds]

theorem checkArray_agrees {fs gs : List Field}
    (alike : List.Forall₂ (FieldsCorrespond s r R d e) fs gs) (v : Json) :
    (checkArray s inner d fs v).toOption = (checkArray r inner' e gs v).toOption :=
  Except.toOption_bind_congr (placesOf_agrees related v)
    (checkPlaces_agrees limits related further alike)

omit limits further related in
theorem partType_cases {a b : Option String}
    (references : Option.Rel (fun a b => Option.Rel R (s.lookup? a) (r.lookup? b)) a b)
    (role : String) :
    ((partType s d role a).toOption = none ∧ (partType r e role b).toOption = none) ∨
      ∃ t u, R t u ∧ partType s d role a = .ok t ∧ partType r e role b = .ok u := by
  unfold partType
  rcases references with @⟨x, y, types⟩ | _
  · dsimp only
    generalize s.lookup? x = a at types ⊢
    generalize r.lookup? y = b at types ⊢
    rcases types with @⟨t, u, same⟩ | _
    · exact Or.inr ⟨t, u, same, rfl, rfl⟩
    · exact Or.inl ⟨rfl, rfl⟩
  · exact Or.inl ⟨rfl, rfl⟩

theorem checkArrayOf_agrees (v : Json) :
    (checkArrayOf s inner d v).toOption = (checkArrayOf r inner' e v).toOption := by
  unfold checkArrayOf
  rw [related.options.isUnique]
  rcases partType_cases (d := d) (e := e) related.options.vtype "vtype" with
    ⟨undefined, undefined'⟩ | ⟨t, u, same, found, found'⟩
  · simp only [Except.toOption_bind, undefined, undefined', Option.bind_none]
  · have each := further t u same
    simp only [found, found', Except.toOption_bind, Except.toOption_ok, Option.bind_some]
    cases v.arr? with
    | none => rfl
    | some values =>
      dsimp only
      cases repeated? [] values <;>
        simp only [apply_ite Except.toOption, Except.toOption_bind, Except.toOption_error,
          elements_agree each, checkCollection_agrees limits (d := d) (e := e),
          checkSize_agrees limits related.options]

omit limits further related in
theorem given_eq {fs gs : List Field}
    (alike : List.Forall₂ (FieldsCorrespond s r R d e) fs gs) (byId : Bool) (values : List Json) :
    (fs.zip values).filterMap (fun (f, v) =>
        if v.isNull then none else some (verboseKey f byId, v)) =
      (gs.zip values).filterMap fun (f, v) =>
        if v.isNull then none else some (verboseKey f byId, v) := by
  have pairs := forall₂_zip alike values
  generalize fs.zip values = ps at pairs ⊢
  generalize gs.zip values = qs at pairs ⊢
  induction pairs with
  | nil => rfl
  | cons head _ ih => simp only [List.filterMap_cons, head.1.verboseKey, head.2, ih]

omit limits further in
theorem members_agrees (v : Json) : (members d v).toOption = (members e v).toOption := by
  have kinds := related.kind
  unfold members
  rw [related.options.byId]
  generalize d.kind = k at kinds ⊢
  generalize e.kind = k' at kinds ⊢
  cases kinds with
  | @record fs gs alike =>
    cases v with
    | arr values =>
      simp only [apply_ite Except.toOption, alike.length_eq, given_eq alike,
        Except.toOption_error]
    | _ => rfl
  | _ => cases v <;> rfl

omit limits further in
theorem checkKeys_agrees (given : List Int64) (keys : List String) :
    (checkKeys d given keys).toOption = (checkKeys e given keys).toOption := by
  induction keys generalizing given with
  | nil => rfl
  | cons key keys ih =>
    have fields := related.fieldOfKey? key
    rw [checkKeys, checkKeys, related.options.extensible]
    generalize d.fieldOfKey? key = a at fields ⊢
    generalize e.fieldOfKey? key = b at fields ⊢
    rcases fields with @⟨f, g, alike⟩ | _
    · simp only [apply_ite Except.toOption, alike.id, ih, Except.toOption_error]
    · simp only [apply_ite Except.toOption, ih, Except.toOption_error]

theorem fields_agree (members : Dict Json) :
    (d.fields.forM fun f => match present? (members.lookup (verboseKey f e.options.byId)) with
      | some v => under (verboseKey f e.options.byId) (checkField s inner d f v)
      | none => .ok ()).toOption =
    (e.fields.forM fun f => match present? (members.lookup (verboseKey f e.options.byId)) with
      | some v => under (verboseKey f e.options.byId) (checkField r inner' e f v)
      | none => .ok ()).toOption := by
  refine Except.toOption_forM_congr related.fields fun f g alike => ?_
  rw [alike.verboseKey]
  cases present? (members.lookup (verboseKey g e.options.byId)) with
  | none => rfl
  | some v => simp only [toOption_under, checkField_agrees limits further alike]

theorem checkMap_agrees (v : Json) :
    (checkMap s inner d v).toOption = (checkMap r inner' e v).toOption := by
  have fields := related.fields
  have required := fun members : Dict Json => Except.toOption_forM_congr fields
    (f := fun f => if f.isRequired &&
        (present? (members.lookup (verboseKey f e.options.byId))).isNone then
      .error (missingField d f) else .ok ())
    (g := fun f => if f.isRequired &&
        (present? (members.lookup (verboseKey f e.options.byId))).isNone then
      .error (missingField e f) else .ok ())
    (fun f g alike => by
      simp only [apply_ite Except.toOption, alike.isRequired, alike.verboseKey,
        Except.toOption_error])
  unfold checkMap
  rw [related.options.byId]
  refine Except.toOption_bind_congr (members_agrees related v) fun members => ?_
  refine Except.toOption_bind_congr (checkCollection_agrees limits _) fun _ => ?_
  refine Except.toOption_bind_congr (checkKeys_agrees related [] _) fun _ => ?_
  refine Except.toOption_bind_congr (required members) fun _ => ?_
  refine Except.toOption_bind_congr (fields_agree limits related further members) fun _ => ?_
  exact checkSize_agrees limits related.options _

omit limits related in
theorem entries_agree {k k' t u : TypeDefinition} (keyed : R k k') (valued : R t u)
    (pairs : List (Json × Json)) :
    (pairs.forM fun (key, v) => do
        under (keyText key) (inner k key)
        under (keyText key) (inner t v)).toOption =
      (pairs.forM fun (key, v) => do
        under (keyText key) (inner' k' key)
        under (keyText key) (inner' u v)).toOption :=
  Except.toOption_forM_eq pairs fun p => by
    simp only [Except.toOption_bind, toOption_under, further k k' keyed, further t u valued]

theorem checkMapOf_agrees (bases : ∀ d e, R d e → d.baseType = e.baseType) (v : Json) :
    (checkMapOf s inner d v).toOption = (checkMapOf r inner' e v).toOption := by
  unfold checkMapOf
  rcases partType_cases (d := d) (e := e) related.options.ktype "ktype" with
    ⟨undefined, undefined'⟩ | ⟨k, k', keyed, found, found'⟩
  · simp only [Except.toOption_bind, undefined, undefined', Option.bind_none]
  · rcases partType_cases (d := d) (e := e) related.options.vtype "vtype" with
      ⟨undefined, undefined'⟩ | ⟨t, u, valued, given, given'⟩
    · simp only [found, found', Except.toOption_bind, undefined, undefined', Option.bind_none,
        Except.toOption_ok, Option.bind_some]
    · have key : ∀ text, valueOfKey k text = valueOfKey k' text := by
        intro text
        rw [valueOfKey, valueOfKey, bases k k' keyed]
      have read : (entries d k v).toOption = (entries e k' v).toOption := by
        unfold entries
        cases v with
        | obj members => simp only [key]
        | arr flat =>
          dsimp only
          cases pairs? flat <;> rfl
        | _ => rfl
      simp only [found, found', given, given', Except.toOption_bind, Except.toOption_ok,
        Option.bind_some, read, checkCollection_agrees limits (d := d) (e := e),
        entries_agree further keyed valued, checkSize_agrees limits related.options]

theorem checkLevel_agrees (compiled : Compiled s) (compiled' : Compiled r)
    (bases : ∀ d e, R d e → d.baseType = e.baseType) (v : Json) :
    (checkLevel s inner d v).toOption = (checkLevel r inner' e v).toOption := by
  have kinds := related.kind
  have items : d.items = e.items := related.kind.items
  unfold checkLevel
  generalize d.kind = k at kinds ⊢
  generalize e.kind = k' at kinds ⊢
  cases kinds with
  | binary => exact checkBinary_agrees limits related.options v
  | boolean => exact checkBoolean_agrees v
  | integer => exact checkInteger_agrees related.options v
  | number => exact checkNumber_agrees related.options v
  | string => exact checkString_agrees limits related.options compiled compiled' v
  | enumerated => exact checkEnumerated_agrees related.options items v
  | choice => exact checkChoice_agrees limits related further v
  | array alike => exact checkArray_agrees limits related further alike v
  | arrayOf => exact checkArrayOf_agrees limits related further v
  | map => exact checkMap_agrees limits related further v
  | mapOf => exact checkMapOf_agrees limits related further bases v
  | record => exact checkMap_agrees limits related further v

end Agreeing

end Checking

namespace Simulation

variable {s r : Schema} {R : TypeDefinition → TypeDefinition → Prop} (sim : Simulation s r R)
include sim

theorem expandLevels_eq (levels : Nat) {d e : TypeDefinition} (related : R d e) (v : Json) :
    Expansion.expandLevels s levels d v = Expansion.expandLevels r levels e v := by
  induction levels generalizing d e v with
  | zero => rfl
  | succ levels ih =>
    exact expandLevel_eq (sim.corresponds d e related) (fun d e related v => ih related v) v

/-- Related definitions accept the same instances, down to any level. -/
theorem checkLevels_agrees (levels : Nat) {d e : TypeDefinition} (related : R d e) (v : Json) :
    (checkLevels s levels d v).toOption = (checkLevels r levels e v).toOption := by
  induction levels generalizing d e v with
  | zero => rfl
  | succ levels ih =>
    have bases : ∀ d e, R d e → d.baseType = e.baseType := fun d e related =>
      (sim.corresponds d e related).kind.baseType
    exact checkLevel_agrees sim.limits (sim.corresponds d e related)
      (fun d e related v => ih related v) sim.compiled sim.compiled' bases v

/-- Two names that denote related definitions, or nothing, accept the same instances. -/
theorem isValid_eq {name name' : String}
    (denoted : Option.Rel R (s.lookup? name) (r.lookup? name')) (v : Json) :
    s.isValid name v = r.isValid name' v := by
  have verdict : ∀ outcome : Outcome, outcome.isOk = outcome.toOption.isSome := by
    intro outcome
    cases outcome <;> rfl
  unfold Schema.isValid Schema.validate
  rw [verdict, verdict]
  generalize s.lookup? name = a at denoted ⊢
  generalize r.lookup? name' = b at denoted ⊢
  rcases denoted with @⟨d, e, related⟩ | _
  · have form : d.expand s v = e.expand r v := by
      unfold TypeDefinition.expand
      rw [sim.limits.limits]
      exact sim.expandLevels_eq _ related v
    have checked := sim.checkLevels_agrees (r.limits.maxDepth + 1 - 0) related (e.expand r v)
    simp only [toOption_under, Schema.check, form, sim.limits.limits, checked]
  · rfl

end Simulation

end Validation

end Jadn
