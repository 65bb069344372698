import Jadn.Proofs.Schema.Lookup

/-!
Validation looks at no more than what it is led to.

A region holds definitions for which two schemas look up the same, together with what is looked
up. Within a region instances have the same verbose forms, and the same outcomes when they are
checked, errors included.
-/

set_option autoImplicit false

namespace Jadn

namespace Validation

/-- Definitions for which two schemas with the same limits look up the same, in the region
again. -/
structure Region (s r : Schema) (D : TypeDefinition → Prop) : Prop where
  bounds : SameBounds s r
  compiled : Compiled s
  compiled' : Compiled r
  fieldType : ∀ d, D d → ∀ f ∈ d.fields,
    s.fieldType? d.name f = r.fieldType? d.name f ∧ ∀ t ∈ s.fieldType? d.name f, D t
  reference : ∀ d, D d → ∀ x ∈ d.options.vtype.toList ++ d.options.ktype.toList,
    s.lookup? x = r.lookup? x ∧ ∀ t ∈ s.lookup? x, D t

/-- What the patterns of a schema compile to does not depend on when they were compiled. -/
theorem pattern_eq {s r : Schema} (compiled : Compiled s) (compiled' : Compiled r)
    (d : TypeDefinition) (source : String) : pattern s d source = pattern r d source := by
  unfold pattern
  cases found : s.patterns.lookup source with
  | some p =>
    cases found' : r.patterns.lookup source with
    | some p' =>
      have same := compiled source p found
      rw [compiled' source p' found'] at same
      rw [Except.ok.inj same]
    | none => simp only [compiled source p found]
  | none =>
    cases found' : r.patterns.lookup source with
    | some p' => simp only [compiled' source p' found']
    | none => rfl

theorem forM_congr {α : Type} (xs : List α) {f g : α → Outcome} (same : ∀ x ∈ xs, f x = g x) :
    xs.forM f = xs.forM g := by
  induction xs with
  | nil => rfl
  | cons x xs ih =>
    rw [List.forM, List.forM, same x List.mem_cons_self,
      ih fun y hy => same y (List.mem_cons_of_mem _ hy)]

namespace Region

variable {s r : Schema} {D : TypeDefinition → Prop} (region : Region s r D)
include region

theorem corresponds {d : TypeDefinition} (h : D d) :
    Corresponds s r (fun t u => t = u ∧ D t) d d := by
  have looked : ∀ {a b : Option TypeDefinition}, a = b → (∀ t ∈ a, D t) →
      Option.Rel (fun t u => t = u ∧ D t) a b := by
    rintro a _ rfl inside
    exact rel_refl fun t ht => ⟨rfl, inside t ht⟩
  have reference : ∀ a : Option String,
      (∀ x ∈ a, x ∈ d.options.vtype.toList ++ d.options.ktype.toList) →
        Option.Rel (fun x y => Option.Rel (fun t u => t = u ∧ D t) (s.lookup? x) (r.lookup? y))
          a a := by
    intro a listed
    refine rel_refl fun x hx => ?_
    obtain ⟨same, inside⟩ := region.reference d h x (listed x hx)
    exact looked same inside
  have fields : List.Forall₂ (FieldsCorrespond s r (fun t u => t = u ∧ D t) d d)
      d.kind.fields d.kind.fields := by
    refine List.forall₂_same.mpr fun f hf => ?_
    obtain ⟨same, inside⟩ := region.fieldType d h f hf
    exact ⟨rfl, rfl, rfl, rfl, looked same inside⟩
  refine ⟨⟨rfl, rel_refl fun x _ => BEq.rfl, rel_refl fun x _ => BEq.rfl, ?_, ?_⟩, ?_⟩
  · exact reference _ fun x hx => by simp [Option.mem_def.mp hx]
  · exact reference _ fun x hx => by simp [Option.mem_def.mp hx]
  · exact (Kind.alike_of_beq (BEq.refl d.kind)).of_fields fields

theorem expandLevels_eq (levels : Nat) {d : TypeDefinition} (h : D d) (v : Json) :
    Expansion.expandLevels s levels d v = Expansion.expandLevels r levels d v := by
  induction levels generalizing d v with
  | zero => rfl
  | succ levels ih =>
    refine expandLevel_eq (region.corresponds h) ?_ v
    rintro t _ ⟨rfl, inside⟩ v
    exact ih inside v

section Level

variable {inner inner' : Checker} (further : ∀ d, D d → ∀ v, inner d v = inner' d v)
  {d : TypeDefinition} (h : D d)

theorem checkSize_eq (count : Nat) : checkSize s d count = checkSize r d count := by
  rw [checkSize, checkSize, region.bounds.elementLimit]

theorem checkCollection_eq (count : Nat) : checkCollection s d count = checkCollection r d count := by
  rw [checkCollection, checkCollection, region.bounds.limits]

include further h

theorem checkField_eq {f : Field} (hf : f ∈ d.fields) (v : Json) :
    checkField s inner d f v = checkField r inner' d f v := by
  obtain ⟨same, inside⟩ := region.fieldType d h f hf
  unfold checkField
  rw [← same, region.bounds.elementLimit]
  cases found : s.fieldType? d.name f with
  | none => rfl
  | some t =>
    have each : inner t = inner' t := funext (further t (inside t found))
    simp only [each]

theorem checkChoice_eq (v : Json) : checkChoice s inner d v = checkChoice r inner' d v := by
  unfold checkChoice
  split
  · rfl
  · next key member =>
    cases found : d.fieldOfKey? key with
    | none => rfl
    | some f =>
      have hf := TypeDefinition.mem_fields_of_fieldOfKey? found
      simp only [region.checkField_eq further h hf]
  · rfl
  · rfl

theorem checkArray_eq (v : Json) :
    checkArray s inner d d.fields v = checkArray r inner' d d.fields v := by
  have checked := fun values : List Json => forM_congr (d.fields.zip values)
    (f := fun p => if p.2.isNull then .ok () else
      under p.1.name (checkField s inner d p.1 p.2))
    (g := fun p => if p.2.isNull then .ok () else
      under p.1.name (checkField r inner' d p.1 p.2))
    fun p member => by rw [region.checkField_eq further h (List.of_mem_zip member).1]
  simp only [checkArray, checkPlaces, checked]

omit further in
theorem partType_cases {a : Option String}
    (ha : ∀ x ∈ a, x ∈ d.options.vtype.toList ++ d.options.ktype.toList) (role : String) :
    (∃ e, partType s d role a = .error e ∧ partType r d role a = .error e) ∨
      ∃ t, D t ∧ partType s d role a = .ok t ∧ partType r d role a = .ok t := by
  cases a with
  | none => exact Or.inl ⟨_, rfl, rfl⟩
  | some x =>
    obtain ⟨same, inside⟩ := region.reference d h x (ha x rfl)
    simp only [partType, ← same]
    cases found : s.lookup? x with
    | none => exact Or.inl ⟨_, rfl, rfl⟩
    | some t => exact Or.inr ⟨t, inside t found, rfl, rfl⟩

theorem checkArrayOf_eq (v : Json) : checkArrayOf s inner d v = checkArrayOf r inner' d v := by
  have listed : ∀ x ∈ d.options.vtype, x ∈ d.options.vtype.toList ++ d.options.ktype.toList :=
    fun x hx => by simp [Option.mem_def.mp hx]
  unfold checkArrayOf
  rcases region.partType_cases h listed "vtype" with ⟨e, fails, fails'⟩ | ⟨t, inside, ok, ok'⟩
  · rw [fails, fails']
    rfl
  · have each : inner t = inner' t := funext (further t inside)
    simp only [ok, ok', region.checkCollection_eq, region.checkSize_eq, bind, Except.bind, each]

theorem checkMap_eq (v : Json) : checkMap s inner d v = checkMap r inner' d v := by
  unfold checkMap
  simp only [region.checkCollection_eq, region.checkSize_eq]
  refine bind_congr fun members => bind_congr fun _ => bind_congr fun _ => bind_congr fun _ => ?_
  refine congrArg₂ bind (forM_congr _ fun f hf => ?_) rfl
  simp only [region.checkField_eq further h hf]

theorem checkMapOf_eq (v : Json) : checkMapOf s inner d v = checkMapOf r inner' d v := by
  have keys : ∀ x ∈ d.options.ktype, x ∈ d.options.vtype.toList ++ d.options.ktype.toList :=
    fun x hx => by simp [Option.mem_def.mp hx]
  have values : ∀ x ∈ d.options.vtype, x ∈ d.options.vtype.toList ++ d.options.ktype.toList :=
    fun x hx => by simp [Option.mem_def.mp hx]
  unfold checkMapOf
  rcases region.partType_cases h keys "ktype" with ⟨e, fails, fails'⟩ | ⟨k, keyed, ok, ok'⟩
  · rw [fails, fails']
    rfl
  · rcases region.partType_cases h values "vtype" with ⟨e, fails, fails'⟩ | ⟨t, valued, given, given'⟩
    · rw [ok, ok', fails, fails']
      rfl
    · have key : inner k = inner' k := funext (further k keyed)
      have value : inner t = inner' t := funext (further t valued)
      simp only [ok, ok', given, given', region.checkCollection_eq, region.checkSize_eq, bind,
        Except.bind, key, value]

theorem checkLevel_eq (v : Json) : checkLevel s inner d v = checkLevel r inner' d v := by
  unfold checkLevel
  cases kind : d.kind with
  | binary => simp only [checkBinary, region.bounds.binaryLimit]
  | string =>
    simp only [checkString, pattern_eq region.compiled region.compiled', region.bounds.stringLimit]
  | choice fields => exact region.checkChoice_eq further h v
  | array fields =>
    have own : fields = d.fields := by simp [TypeDefinition.fields, kind, Kind.fields]
    rw [own]
    exact region.checkArray_eq further h v
  | arrayOf => exact region.checkArrayOf_eq further h v
  | map fields => exact region.checkMap_eq further h v
  | mapOf => exact region.checkMapOf_eq further h v
  | record fields => exact region.checkMap_eq further h v
  | _ => rfl

end Level

/-- Definitions of a region have the same outcome in both schemas, down to any level. -/
theorem checkLevels_eq (levels : Nat) {d : TypeDefinition} (h : D d) (v : Json) :
    checkLevels s levels d v = checkLevels r levels d v := by
  induction levels generalizing d v with
  | zero => rw [checkLevels, checkLevels, region.bounds.limits]
  | succ levels ih => exact region.checkLevel_eq (fun d inside v => ih inside v) h v

/-- A name that leads into a region has the same outcome in both schemas. -/
theorem validate_eq {name : String} (same : s.lookup? name = r.lookup? name)
    (inside : ∀ d ∈ s.lookup? name, D d) (v : Json) : s.validate name v = r.validate name v := by
  unfold Schema.validate
  rw [← same]
  cases found : s.lookup? name with
  | none => rfl
  | some d =>
    have h := inside d found
    simp only [Schema.check, TypeDefinition.expand, region.bounds.limits, region.expandLevels_eq _ h,
      region.checkLevels_eq _ h]

end Region

end Validation

end Jadn
