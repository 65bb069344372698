import Jadn.Proofs.Equality
import Mathlib.Logic.Relation

/-!
Definitions alike: equal but for their names and the names that they refer to, which are
related.

Likeness composes, and it can be strengthened by what is known of the names at each place.
Definitions that are decided to be equal up to a replacement of names are alike.
-/

set_option autoImplicit false

namespace Jadn

namespace Binary64

theorem eq_of_beq {x y : Binary64} (h : (x == y) = true) :
    x.mantissa = y.mantissa ∧ x.exponent = y.exponent ∧
      (x.mantissa = 0 ∨ x.negative = y.negative) := by
  simp only [BEq.beq, isZero, Bool.or_eq_true, Bool.and_eq_true, decide_eq_true_eq] at h
  have least : ∀ z : Binary64, z.mantissa = 0 → z.exponent = -1074 := by
    intro z zero
    have canonical := z.canonical
    simp only [Canonical, zero, leastFull] at canonical
    omega
  rcases h with ⟨first, second⟩ | ⟨⟨sign, mantissa⟩, exponent⟩
  · exact ⟨by omega, by rw [least x first, least y second], Or.inl first⟩
  · exact ⟨mantissa, exponent, Or.inr sign⟩

theorem beq_trans {x y z : Binary64} (first : (x == y) = true) (second : (y == z) = true) :
    (x == z) = true := by
  simp only [BEq.beq, isZero, Bool.or_eq_true, Bool.and_eq_true, decide_eq_true_eq] at *
  grind

theorem beq_symm {x y : Binary64} (h : (x == y) = true) : (y == x) = true := by
  simp only [BEq.beq, isZero, Bool.or_eq_true, Bool.and_eq_true, decide_eq_true_eq] at *
  grind

theorem inUnits_of_beq {x y : Binary64} (h : (x == y) = true) (unit : Int) :
    x.inUnits unit = y.inUnits unit := by
  obtain ⟨mantissa, exponent, zero | sign⟩ := eq_of_beq h
  · simp [inUnits, zero, mantissa.symm.trans zero]
  · simp [inUnits, mantissa, exponent, sign]

theorem lt_of_beq_left {x y : Binary64} (h : (x == y) = true) (z : Binary64) :
    x.lt z = y.lt z := by
  simp only [lt, (eq_of_beq h).2.1, inUnits_of_beq h]

theorem lt_of_beq_right {x y : Binary64} (h : (x == y) = true) (z : Binary64) :
    z.lt x = z.lt y := by
  simp only [lt, (eq_of_beq h).2.1, inUnits_of_beq h]

theorem isZero_of_beq {x y : Binary64} (h : (x == y) = true) : x.isZero = y.isZero := by
  simp [isZero, (eq_of_beq h).1]

end Binary64

def Options.blank (o : Options) : Options :=
  { o with
    vtype := none
    ktype := none
    enumeration := none
    pointer := none
    minf := none
    maxf := none }

/-- Options that agree in what is checked, given which references mean the same. -/
structure Options.Agree (same : String → String → Prop) (o o' : Options) : Prop where
  blank : o.blank = o'.blank
  minf : Option.Rel (fun x y => (x == y) = true) o.minf o'.minf
  maxf : Option.Rel (fun x y => (x == y) = true) o.maxf o'.maxf
  vtype : Option.Rel same o.vtype o'.vtype
  ktype : Option.Rel same o.ktype o'.ktype

namespace Options.Agree

variable {same : String → String → Prop} {o o' : Options} (h : o.Agree same o')
include h

theorem minv : o.minv = o'.minv := (congrArg Options.minv h.blank :)

theorem maxv : o.maxv = o'.maxv := (congrArg Options.maxv h.blank :)

theorem minc : o.minc = o'.minc := (congrArg Options.minc h.blank :)

theorem maxc : o.maxc = o'.maxc := (congrArg Options.maxc h.blank :)

theorem format : o.format = o'.format := (congrArg Options.format h.blank :)

theorem pattern : o.pattern = o'.pattern := (congrArg Options.pattern h.blank :)

theorem byId : o.byId = o'.byId := (congrArg Options.byId h.blank :)

theorem extensible : o.extensible = o'.extensible := (congrArg Options.extensible h.blank :)

theorem isUnique : o.isUnique = o'.isUnique := (congrArg Options.isUnique h.blank :)

theorem dir : o.dir = o'.dir := (congrArg Options.dir h.blank :)

end Options.Agree

/-- References with the same marker to names that are related. -/
def Referring (ρ : String → String → Prop) (a b : String) : Prop :=
  (splitMarker a).1 = (splitMarker b).1 ∧ ρ (splitMarker a).2 (splitMarker b).2

/-- Options equal but for the names referred to. -/
structure Options.Alike (ρ : String → String → Prop) (o o' : Options) : Prop extends
    Options.Agree (Referring ρ) o o' where
  enumeration : Option.Rel (Referring ρ) o.enumeration o'.enumeration
  pointer : Option.Rel (Referring ρ) o.pointer o'.pointer

structure Field.Alike (ρ : String → String → Prop) (f g : Field) : Prop where
  id : f.id = g.id
  name : f.name = g.name
  description : f.description = g.description
  typeRef : Referring ρ f.typeRef g.typeRef
  options : f.options.Alike ρ g.options

structure TypeDefinition.Alike (ρ : String → String → Prop) (d e : TypeDefinition) : Prop where
  options : d.options.Alike ρ e.options
  kind : d.kind.Alike (Field.Alike ρ) e.kind

section Composition

variable {α β γ : Type}

theorem rel_comp {R : α → β → Prop} {S : β → γ → Prop} {a : Option α} {b : Option β}
    {c : Option γ} (first : Option.Rel R a b) (second : Option.Rel S b c) :
    Option.Rel (Relation.Comp R S) a c := by
  rcases first with @⟨_, _, left⟩ | _
  · rcases second with @⟨_, _, right⟩ | _
    exact .some ⟨_, left, right⟩
  · cases second
    exact .none

theorem rel_imp {R S : α → β → Prop} {a : Option α} {b : Option β} (h : Option.Rel R a b)
    (imp : ∀ x y, a = some x → b = some y → R x y → S x y) : Option.Rel S a b := by
  rcases h with @⟨x, y, related⟩ | _
  · exact .some (imp x y rfl rfl related)
  · exact .none

theorem forall₂_zipped {R : α → β → Prop} {xs : List α} {ys : List β}
    (h : List.Forall₂ R xs ys) : List.Forall₂ (fun x y => R x y ∧ (x, y) ∈ xs.zip ys) xs ys :=
  List.forall₂_iff_zip.mpr
    ⟨h.length_eq, fun member => ⟨List.forall₂_zip h member, member⟩⟩

theorem forall₂_comp {R : α → β → Prop} {S : β → γ → Prop} {xs : List α} {ys : List β}
    {zs : List γ} (first : List.Forall₂ R xs ys) (second : List.Forall₂ S ys zs) :
    List.Forall₂ (Relation.Comp R S) xs zs := by
  induction first generalizing zs with
  | nil =>
    cases second
    exact .nil
  | cons head _ ih =>
    cases second with
    | cons head' tail' => exact .cons ⟨_, head, head'⟩ (ih tail')

theorem Referring.comp {ρ σ : String → String → Prop} {a b c : String} (first : Referring ρ a b)
    (second : Referring σ b c) : Referring (Relation.Comp ρ σ) a c :=
  ⟨first.1.trans second.1, _, first.2, second.2⟩

theorem Kind.Alike.of_fields {R S : Field → Field → Prop} {k k' : Kind} (h : Alike R k k')
    (fields : List.Forall₂ S k.fields k'.fields) : Alike S k k' := by
  cases h with
  | choice => exact .choice fields
  | array => exact .array fields
  | map => exact .map fields
  | record => exact .record fields
  | _ => constructor

theorem Kind.Alike.flip {R : Field → Field → Prop} {k k' : Kind} (h : Alike R k k') :
    Alike (fun f g => R g f) k' k := by
  cases h with
  | choice h => exact .choice h.flip
  | array h => exact .array h.flip
  | map h => exact .map h.flip
  | record h => exact .record h.flip
  | _ => constructor

theorem Kind.Alike.comp {R S : Field → Field → Prop} {k k' k'' : Kind} (first : Alike R k k')
    (second : Alike S k' k'') : Alike (Relation.Comp R S) k k'' := by
  cases first with
  | choice h => cases second with | choice h' => exact .choice (forall₂_comp h h')
  | array h => cases second with | array h' => exact .array (forall₂_comp h h')
  | map h => cases second with | map h' => exact .map (forall₂_comp h h')
  | record h => cases second with | record h' => exact .record (forall₂_comp h h')
  | _ =>
    cases second
    constructor

theorem Options.Alike.comp {ρ σ : String → String → Prop} {o o' o'' : Options}
    (first : o.Alike ρ o') (second : o'.Alike σ o'') : o.Alike (Relation.Comp ρ σ) o'' := by
  have bound : ∀ {a b c : Option Binary64}, Option.Rel (fun x y => (x == y) = true) a b →
      Option.Rel (fun x y => (x == y) = true) b c → Option.Rel (fun x y => (x == y) = true) a c := by
    intro a b c left right
    refine rel_imp (rel_comp left right) ?_
    rintro x z - - ⟨y, equal, equal'⟩
    exact Binary64.beq_trans equal equal'
  have reference : ∀ {a b c : Option String}, Option.Rel (Referring ρ) a b →
      Option.Rel (Referring σ) b c → Option.Rel (Referring (Relation.Comp ρ σ)) a c := by
    intro a b c left right
    refine rel_imp (rel_comp left right) ?_
    rintro x z - - ⟨y, related, related'⟩
    exact related.comp related'
  exact {
    blank := first.blank.trans second.blank
    minf := bound first.minf second.minf
    maxf := bound first.maxf second.maxf
    vtype := reference first.vtype second.vtype
    ktype := reference first.ktype second.ktype
    enumeration := reference first.enumeration second.enumeration
    pointer := reference first.pointer second.pointer }

theorem Field.Alike.comp {ρ σ : String → String → Prop} {f g h : Field} (first : f.Alike ρ g)
    (second : g.Alike σ h) : f.Alike (Relation.Comp ρ σ) h where
  id := first.id.trans second.id
  name := first.name.trans second.name
  description := first.description.trans second.description
  typeRef := first.typeRef.comp second.typeRef
  options := first.options.comp second.options

/-- What is alike to something alike is alike, the names being related in two steps. -/
theorem TypeDefinition.Alike.comp {ρ σ : String → String → Prop} {d e e' : TypeDefinition}
    (first : d.Alike ρ e) (second : e.Alike σ e') : d.Alike (Relation.Comp ρ σ) e' := by
  refine ⟨first.options.comp second.options, ?_⟩
  have kind := first.kind.comp second.kind
  refine kind.of_fields (kind.fields.imp ?_)
  rintro f h ⟨g, left, right⟩
  exact left.comp right

theorem rel_flip {R : α → β → Prop} {a : Option α} {b : Option β} (h : Option.Rel R a b) :
    Option.Rel (fun y x => R x y) b a := by
  rcases h with @⟨_, _, related⟩ | _
  · exact .some related
  · exact .none

theorem Options.Alike.flip {ρ : String → String → Prop} {o o' : Options} (h : o.Alike ρ o') :
    o'.Alike (fun y x => ρ x y) o := by
  have bound : ∀ {a b : Option Binary64}, Option.Rel (fun x y => (x == y) = true) a b →
      Option.Rel (fun x y => (x == y) = true) b a := by
    intro a b equal
    exact rel_imp (rel_flip equal) fun x y _ _ => Binary64.beq_symm
  have reference : ∀ {a b : Option String}, Option.Rel (Referring ρ) a b →
      Option.Rel (Referring fun y x => ρ x y) b a := by
    intro a b related
    exact rel_imp (rel_flip related) fun x y _ _ both => ⟨both.1.symm, both.2⟩
  exact {
    blank := h.blank.symm
    minf := bound h.minf
    maxf := bound h.maxf
    vtype := reference h.vtype
    ktype := reference h.ktype
    enumeration := reference h.enumeration
    pointer := reference h.pointer }

theorem Field.Alike.flip {ρ : String → String → Prop} {f g : Field} (h : f.Alike ρ g) :
    g.Alike (fun y x => ρ x y) f where
  id := h.id.symm
  name := h.name.symm
  description := h.description.symm
  typeRef := ⟨h.typeRef.1.symm, h.typeRef.2⟩
  options := h.options.flip

theorem TypeDefinition.Alike.flip {ρ : String → String → Prop} {d e : TypeDefinition}
    (h : d.Alike ρ e) : e.Alike (fun y x => ρ x y) d := by
  have kind := h.kind.flip
  exact ⟨h.options.flip, kind.of_fields (kind.fields.imp fun g f same => same.flip)⟩

end Composition

section Merging

theorem rel_orElse {α β : Type} {R : α → β → Prop} {a a' : Option α} {b b' : Option β}
    (first : Option.Rel R a b) (second : Option.Rel R a' b') :
    Option.Rel R (a <|> a') (b <|> b') := by
  rcases first with related | _
  · exact .some related
  · exact second

namespace Options.Agree

variable {same : String → String → Prop} {o o' p p' : Options}

theorem merge (base : o.Agree same o') (overlay : p.Agree same p') :
    (o.merge p).Agree same (o'.merge p') := by
  have blank : ∀ o p : Options, (o.merge p).blank = o.blank.merge p.blank := fun o p => rfl
  exact {
    blank := by rw [blank, blank, base.blank, overlay.blank]
    minf := rel_orElse overlay.minf base.minf
    maxf := rel_orElse overlay.maxf base.maxf
    vtype := rel_orElse overlay.vtype base.vtype
    ktype := rel_orElse overlay.ktype base.ktype }

theorem typeOptions (h : o.Agree same o') : o.typeOptions.Agree same o'.typeOptions := by
  have blank : ∀ o : Options, o.typeOptions.blank = o.blank.typeOptions := fun o => rfl
  exact {
    blank := by rw [blank, blank, h.blank]
    minf := h.minf
    maxf := h.maxf
    vtype := h.vtype
    ktype := h.ktype }

theorem imp {same' : String → String → Prop} (h : o.Agree same o')
    (imp : ∀ a b, a ∈ o.vtype.toList ++ o.ktype.toList → b ∈ o'.vtype.toList ++ o'.ktype.toList →
      same a b → same' a b) : o.Agree same' o' := by
  refine { h with vtype := rel_imp h.vtype ?_, ktype := rel_imp h.ktype ?_ }
  · intro a b left right
    exact imp a b (by simp [left]) (by simp [right])
  · intro a b left right
    exact imp a b (by simp [left]) (by simp [right])

end Options.Agree

end Merging

section Names

variable {α β : Type} {R : α → β → Prop}

theorem forall₂_toList_iff {a : Option α} {b : Option β} :
    List.Forall₂ R a.toList b.toList ↔ Option.Rel R a b := by
  cases a <;> cases b <;> simp [Option.toList, List.forall₂_cons, Option.rel_some_some]

theorem forall₂_append_iff {xs xs' : List α} {ys ys' : List β} (length : xs.length = ys.length) :
    List.Forall₂ R (xs ++ xs') (ys ++ ys') ↔ List.Forall₂ R xs ys ∧ List.Forall₂ R xs' ys' := by
  induction xs generalizing ys with
  | nil =>
    cases ys with
    | nil => simp
    | cons y ys => cases length
  | cons x xs ih =>
    cases ys with
    | nil => cases length
    | cons y ys =>
      simp only [List.cons_append, List.forall₂_cons, ih (Nat.succ.inj length), and_assoc]

variable {ρ σ : String → String → Prop}

theorem forall₂_names_iff {xs ys : List String}
    (markers : List.Forall₂ (fun a b => (splitMarker a).1 = (splitMarker b).1) xs ys) :
    List.Forall₂ σ (xs.map fun r => (splitMarker r).2) (ys.map fun r => (splitMarker r).2) ↔
      List.Forall₂ (Referring σ) xs ys := by
  rw [List.forall₂_map_left_iff, List.forall₂_map_right_iff]
  constructor
  · exact fun h => h.mp (fun a b name same => ⟨same, name⟩) markers
  · exact fun h => h.imp fun a b related => related.2

theorem Options.Alike.references_iff {o o' : Options} (h : o.Alike ρ o') :
    List.Forall₂ σ o.references o'.references ↔ o.Alike σ o' := by
  have markers := fun {a b : Option String} (related : Option.Rel (Referring ρ) a b) =>
    forall₂_toList_iff.mpr (rel_imp related fun x y _ _ both => both.1)
  have one := markers h.vtype
  have two := List.rel_append one (markers h.ktype)
  have three := List.rel_append two (markers h.enumeration)
  have all := List.rel_append three (markers h.pointer)
  rw [references, references, forall₂_names_iff all, forall₂_append_iff three.length_eq,
    forall₂_append_iff two.length_eq, forall₂_append_iff one.length_eq]
  simp only [forall₂_toList_iff]
  constructor
  · rintro ⟨⟨⟨vtype, ktype⟩, enumeration⟩, pointer⟩
    exact { h with vtype, ktype, enumeration, pointer }
  · intro h
    exact ⟨⟨⟨h.vtype, h.ktype⟩, h.enumeration⟩, h.pointer⟩

theorem Field.Alike.referredNames_iff {f g : Field} (h : f.Alike ρ g) :
    List.Forall₂ σ f.referredNames g.referredNames ↔ f.Alike σ g := by
  rw [referredNames, referredNames, List.forall₂_cons, h.options.references_iff]
  constructor
  · rintro ⟨own, options⟩
    exact { h with typeRef := ⟨h.typeRef.1, own⟩, options }
  · intro h
    exact ⟨h.typeRef.2, h.options⟩

theorem forall₂_fields_iff {fs gs : List Field} (h : List.Forall₂ (Field.Alike ρ) fs gs) :
    List.Forall₂ σ (fs.flatMap Field.referredNames) (gs.flatMap Field.referredNames) ↔
      List.Forall₂ (Field.Alike σ) fs gs := by
  induction h with
  | nil => simp
  | cons head _ ih =>
    have length := (head.referredNames_iff.mpr head).length_eq
    rw [List.flatMap_cons, List.flatMap_cons, forall₂_append_iff length, head.referredNames_iff, ih,
      List.forall₂_cons]

theorem TypeDefinition.Alike.referredNames_iff {d e : TypeDefinition} (h : d.Alike ρ e) :
    List.Forall₂ σ d.referredNames e.referredNames ↔ d.Alike σ e := by
  have length := (h.options.references_iff.mpr h.options).length_eq
  have fields : List.Forall₂ σ (d.fields.flatMap Field.referredNames)
      (e.fields.flatMap Field.referredNames) ↔
        List.Forall₂ (Field.Alike σ) d.kind.fields e.kind.fields :=
    forall₂_fields_iff h.kind.fields
  rw [referredNames, referredNames, forall₂_append_iff length, h.options.references_iff, fields]
  constructor
  · rintro ⟨options, fields⟩
    exact ⟨options, h.kind.of_fields fields⟩
  · intro h
    exact ⟨h.options, h.kind.fields⟩

/-- Definitions alike are so in the names that stand at the same place. -/
theorem TypeDefinition.Alike.zipped {d e : TypeDefinition} (h : d.Alike ρ e) :
    d.Alike (fun x y => ρ x y ∧ (x, y) ∈ d.referredNames.zip e.referredNames) e :=
  h.referredNames_iff.mp (forall₂_zipped (h.referredNames_iff.mpr h))

theorem TypeDefinition.Alike.imp {d e : TypeDefinition} (h : d.Alike ρ e)
    (imp : ∀ x y, ρ x y → σ x y) : d.Alike σ e :=
  h.referredNames_iff.mp ((h.referredNames_iff.mpr h).imp imp)

end Names

section Replaced

variable {g : String → String}

theorem rel_refl {α : Type} {R : α → α → Prop} {a : Option α} (h : ∀ x, a = some x → R x x) :
    Option.Rel R a a := by
  cases a with
  | none => exact .none
  | some x => exact .some (h x rfl)

theorem Options.alike_replaced {o : Options} (unmarked : ∀ x ∈ o.references, Unmarked (g x)) :
    o.Alike (fun x y => y = g x) (o.replaced g) := by
  have bound : ∀ a : Option Binary64, Option.Rel (fun x y => (x == y) = true) a a :=
    fun a => rel_refl fun x _ => BEq.rfl
  have reference : ∀ a : Option String, (∀ x ∈ a, (splitMarker x).2 ∈ o.references) →
      Option.Rel (Referring fun x y => y = g x) a (a.map (remark g)) := by
    intro a listed
    cases a with
    | none => exact .none
    | some x =>
      have parts := splitMarker_remark (Or.inl (unmarked _ (listed x rfl)))
      exact .some ⟨by rw [parts], by rw [parts]⟩
  refine { blank := rfl, minf := bound _, maxf := bound _, vtype := reference _ ?_,
           ktype := reference _ ?_, enumeration := reference _ ?_, pointer := reference _ ?_ }
  all_goals
    intro x hx
    simp only [Option.mem_def] at hx
    simp [references, hx]

theorem Field.alike_replaced {f : Field} (unmarked : ∀ x ∈ f.referredNames, Unmarked (g x)) :
    f.Alike (fun x y => y = g x) (f.replaced g) := by
  have parts := splitMarker_remark (Or.inl (unmarked _ List.mem_cons_self))
  exact {
    id := rfl
    name := rfl
    description := rfl
    typeRef := ⟨by rw [replaced, parts], by rw [replaced, parts]⟩
    options := Options.alike_replaced fun x hx => unmarked x (List.mem_cons_of_mem _ hx) }

theorem TypeDefinition.alike_replaced {d : TypeDefinition}
    (unmarked : ∀ x ∈ d.referredNames, Unmarked (g x)) :
    d.Alike (fun x y => y = g x) (d.replaced g) := by
  refine ⟨Options.alike_replaced fun x hx => unmarked x (List.mem_append_left _ hx), ?_⟩
  have each : ∀ f ∈ d.kind.fields, f.Alike (fun x y => y = g x) (f.replaced g) := by
    intro f hf
    refine Field.alike_replaced fun x hx => unmarked x (List.mem_append_right _ ?_)
    exact List.mem_flatMap.mpr ⟨f, hf, hx⟩
  have fields : ∀ fs : List Field, (∀ f ∈ fs, f.Alike (fun x y => y = g x) (f.replaced g)) →
      List.Forall₂ (Field.Alike fun x y => y = g x) fs (fs.map (Field.replaced g)) := by
    intro fs each
    rw [List.forall₂_map_right_iff, List.forall₂_same]
    exact each
  unfold replaced
  generalize d.kind = k at each ⊢
  cases k with
  | choice fs => exact .choice (fields fs each)
  | array fs => exact .array (fields fs each)
  | map fs => exact .map (fields fs each)
  | record fs => exact .record (fields fs each)
  | _ => constructor

theorem Options.alike_of_beq {o o' : Options} (h : (o' == o) = true) : o.Alike Eq o' := by
  obtain ⟨same, minf, maxf⟩ := eq_of_beq h
  have bound : ∀ {a b : Option Binary64}, (b == a) = true →
      Option.Rel (fun x y => (x == y) = true) a b := by
    intro a b equal
    cases a <;> cases b
    · exact .none
    · cases equal
    · cases equal
    · exact .some (Binary64.beq_symm equal)
  have reference : ∀ {a b : Option String}, a = b → Option.Rel (Referring Eq) a b := by
    rintro a _ rfl
    exact rel_refl fun x _ => ⟨rfl, rfl⟩
  exact {
    blank := by rw [same]; rfl
    minf := bound minf
    maxf := bound maxf
    vtype := reference (by rw [same])
    ktype := reference (by rw [same])
    enumeration := reference (by rw [same])
    pointer := reference (by rw [same]) }

theorem Field.alike_of_beq {f f' : Field} (h : (f' == f) = true) : f.Alike Eq f' := by
  obtain ⟨same, options⟩ := eq_of_beq h
  exact {
    id := by rw [same]
    name := by rw [same]
    description := by rw [same]
    typeRef := by rw [same]; exact ⟨rfl, rfl⟩
    options := Options.alike_of_beq options }

theorem TypeDefinition.alike_of_beq {d d' : TypeDefinition} (h : (d' == d) = true) :
    d.Alike Eq d' := by
  obtain ⟨-, options, kinds⟩ := eq_of_beq h
  have kind := kinds.flip
  exact ⟨Options.alike_of_beq options,
    kind.of_fields (kind.fields.imp fun f g equal => Field.alike_of_beq equal)⟩

/-- What equals a definition with other names in it is alike to the definition. -/
theorem TypeDefinition.alike_of_beq_replaced {d e : TypeDefinition} {name : String}
    (unmarked : ∀ x ∈ d.referredNames, Unmarked (g x))
    (h : (e == (d.replaced g).renamed name) = true) : d.Alike (fun x y => y = g x) e := by
  have replaced : d.Alike (fun x y => y = g x) ((d.replaced g).renamed name) :=
    ⟨(alike_replaced unmarked).options, (alike_replaced unmarked).kind⟩
  refine (replaced.comp (alike_of_beq h)).imp ?_
  rintro x z ⟨y, rfl, rfl⟩
  rfl

end Replaced

end Jadn
