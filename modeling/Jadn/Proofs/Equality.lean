import Jadn.Proofs.References
import Mathlib.Data.List.Forall2

/-!
Equality of definitions as it is decided: everything is compared, but bounds on real values by
value, so that the two zeros are not told apart.
-/

set_option autoImplicit false

namespace Jadn

instance : ReflBEq Binary64 where
  rfl := by
    intro x
    simp [BEq.beq]

deriving instance ReflBEq for Options
deriving instance ReflBEq for Field
deriving instance ReflBEq for Kind
deriving instance ReflBEq for TypeDefinition

/-- Options that are equal agree on everything but the bits of the bounds on real values. -/
theorem Options.eq_of_beq {o o' : Options} (h : (o == o') = true) :
    o' = { o with minf := o'.minf, maxf := o'.maxf } ∧
      (o.minf == o'.minf) = true ∧ (o.maxf == o'.maxf) = true := by
  have text : ∀ {a b : Option String}, Option.instBEq.beq a b = true ↔ a = b :=
    fun {a b} => (beq_iff_eq : (a == b) = true ↔ a = b)
  have number : ∀ {a b : Option Int64}, Option.instBEq.beq a b = true ↔ a = b :=
    fun {a b} => (beq_iff_eq : (a == b) = true ↔ a = b)
  have texts : ∀ {a b : List String}, a.beq b = true ↔ a = b :=
    fun {a b} => (beq_iff_eq : (a == b) = true ↔ a = b)
  cases o
  cases o'
  simp only [BEq.beq, instBEqOptions.beq, Bool.and_eq_true, text, number, texts,
    decide_eq_true_eq] at h ⊢
  grind

theorem Field.eq_of_beq {f f' : Field} (h : (f == f') = true) :
    f' = { f with options := f'.options } ∧ (f.options == f'.options) = true := by
  cases f
  cases f'
  simp only [BEq.beq, instBEqField.beq, Bool.and_eq_true, decide_eq_true_eq] at h ⊢
  grind

namespace Kind

inductive Alike (R : Field → Field → Prop) : Kind → Kind → Prop where
  | binary : Alike R binary binary
  | boolean : Alike R boolean boolean
  | integer : Alike R integer integer
  | number : Alike R number number
  | string : Alike R string string
  | enumerated (items : List Item) : Alike R (enumerated items) (enumerated items)
  | choice {fs gs : List Field} (h : List.Forall₂ R fs gs) : Alike R (choice fs) (choice gs)
  | array {fs gs : List Field} (h : List.Forall₂ R fs gs) : Alike R (array fs) (array gs)
  | arrayOf : Alike R arrayOf arrayOf
  | map {fs gs : List Field} (h : List.Forall₂ R fs gs) : Alike R (map fs) (map gs)
  | mapOf : Alike R mapOf mapOf
  | record {fs gs : List Field} (h : List.Forall₂ R fs gs) : Alike R (record fs) (record gs)

theorem Alike.fields {R : Field → Field → Prop} {k k' : Kind} (h : Alike R k k') :
    List.Forall₂ R k.fields k'.fields := by
  cases h <;> first | assumption | exact .nil

theorem Alike.baseType {R : Field → Field → Prop} {k k' : Kind} (h : Alike R k k') :
    k.baseType = k'.baseType := by
  cases h <;> rfl

theorem Alike.items {R : Field → Field → Prop} {k k' : Kind} (h : Alike R k k') :
    k.items = k'.items := by
  cases h <;> rfl

theorem alike_of_beq {k k' : Kind} (h : (k == k') = true) :
    Alike (fun f f' => (f == f') = true) k k' := by
  have list : ∀ {fs gs : List Field}, fs.beq gs = true →
      List.Forall₂ (fun f f' => (f == f') = true) fs gs := by
    intro fs gs h
    induction fs generalizing gs with
    | nil =>
      cases gs with
      | nil => exact .nil
      | cons g gs => cases h
    | cons f fs ih =>
      cases gs with
      | nil => cases h
      | cons g gs =>
        simp only [List.beq, Bool.and_eq_true] at h
        exact .cons h.1 (ih h.2)
  have items : ∀ {is js : List Item}, is.beq js = true → is = js := fun h => beq_iff_eq.mp h
  cases k <;> cases k' <;> first
    | exact .binary
    | exact .boolean
    | exact .integer
    | exact .number
    | exact .string
    | exact .arrayOf
    | exact .mapOf
    | exact .choice (list h)
    | exact .array (list h)
    | exact .map (list h)
    | exact .record (list h)
    | (cases items h; exact .enumerated _)
    | cases h

end Kind

theorem TypeDefinition.eq_of_beq {d d' : TypeDefinition} (h : (d == d') = true) :
    d.name = d'.name ∧ (d.options == d'.options) = true ∧
      d.kind.Alike (fun f f' => (f == f') = true) d'.kind := by
  cases d
  cases d'
  simp only [BEq.beq, instBEqTypeDefinition.beq, Bool.and_eq_true, decide_eq_true_eq] at h
  exact ⟨h.1, h.2.1, Kind.alike_of_beq h.2.2.2⟩

theorem Options.references_of_beq {o o' : Options} (h : (o == o') = true) :
    o.references = o'.references := by
  rw [(eq_of_beq h).1]
  rfl

theorem Field.referredNames_of_beq {f f' : Field} (h : (f == f') = true) :
    f.referredNames = f'.referredNames := by
  obtain ⟨same, options⟩ := eq_of_beq h
  rw [same]
  simp [referredNames, Options.references_of_beq options]

theorem TypeDefinition.referredNames_of_beq {d d' : TypeDefinition} (h : (d == d') = true) :
    d.referredNames = d'.referredNames := by
  obtain ⟨-, options, kinds⟩ := eq_of_beq h
  have fields : ∀ fs gs : List Field, List.Forall₂ (fun f f' => (f == f') = true) fs gs →
      fs.flatMap Field.referredNames = gs.flatMap Field.referredNames := by
    intro fs gs related
    induction related with
    | nil => rfl
    | cons head tail ih =>
      rw [List.flatMap_cons, List.flatMap_cons, Field.referredNames_of_beq head, ih]
  have own : d.fields.flatMap Field.referredNames = d'.fields.flatMap Field.referredNames :=
    fields d.fields d'.fields kinds.fields
  rw [referredNames, referredNames, Options.references_of_beq options, own]

end Jadn
