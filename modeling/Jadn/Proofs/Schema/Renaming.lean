import Jadn.Proofs.Schema.Matching
import Mathlib.Logic.Relation

/-!
Schemas in which the same definitions go by other names.

A renaming relates names of two schemas: a base type to itself, and a declared name to one
under which an alike definition is declared, the names that the two refer to being related in
turn. Related names accept the same instances. Only the paths of a pointer tell whether two
names are the same, so along these the related names have to be the same together.
-/

set_option autoImplicit false

namespace Jadn

open Relation (ReflTransGen TransGen)
open Validation (SameBounds)

/-- One definition and another one under a local name refer, by a field that qualifies the
fields of its type, to further ones. -/
def Inside (s r : Schema) (p q : String × String) : Prop :=
  ∃ d e f g, s.get? p.1 = some d ∧ r.get? p.2 = some e ∧ (f, g) ∈ d.fields.zip e.fields ∧
    f.options.dir = true ∧ f.typeRef = q.1 ∧ g.typeRef = q.2

def Pointed (s r : Schema) (ρ : String → String → Prop) (p : String × String) : Prop :=
  ∃ x y d e, ρ x y ∧ s.get? x = some d ∧ r.get? y = some e ∧
    d.options.pointer = some p.1 ∧ e.options.pointer = some p.2

/-- Related names lead to alike definitions, and below a pointer they are the same together. -/
structure Renaming (s r : Schema) (ρ : String → String → Prop) : Prop where
  related : ∀ x y, ρ x y → (BaseType.ofName? x).isSome ∧ y = x ∨
    ∃ d e, s.get? x = some d ∧ r.get? y = some e ∧ d.Alike ρ e
  apart : ∀ p q q', Pointed s r ρ p → ReflTransGen (Inside s r) p q → TransGen (Inside s r) q q' →
    (q.1 = q'.1 ↔ q.2 = q'.2)

/-- Related names lead to alike definitions, or to none and to the same base type, if to any; and
below a pointer they are the same together. -/
structure Translation (s r : Schema) (ρ : String → String → Prop) : Prop where
  related : ∀ x y, ρ x y → s.get? x = none ∧ r.get? y = none ∧ builtin? x = builtin? y ∨
    ∃ d e, s.get? x = some d ∧ r.get? y = some e ∧ d.Alike ρ e
  apart : ∀ p q q', Pointed s r ρ p → ReflTransGen (Inside s r) p q → TransGen (Inside s r) q q' →
    (q.1 = q'.1 ↔ q.2 = q'.2)

structure Schema.Proper (s : Schema) : Prop where
  tables : Schema.Tables s.info s.types s.limits s
  unmarked : ∀ d ∈ s.types, Unmarked d.name
  other : ∀ d ∈ s.types, BaseType.ofName? d.name = none

namespace Schema.Proper

variable {s : Schema} (proper : s.Proper)
include proper

theorem get?_of_baseType {x : String} (base : (BaseType.ofName? x).isSome) : s.get? x = none := by
  cases found : s.get? x with
  | none => rfl
  | some d =>
    obtain ⟨hd, rfl⟩ := mem_of_declared? found
    rw [proper.other d hd] at base
    cases base

theorem get?_of_marked {x : String} (marked : (splitMarker x).1 = true) : s.get? x = none :=
  Schema.get?_of_marked proper.unmarked marked

end Schema.Proper

theorem apart_of_injective {s r : Schema} {ρ : String → String → Prop}
    (unmarked : ∀ d ∈ s.types, Unmarked d.name)
    (alike : ∀ x y d e, ρ x y → s.get? x = some d → r.get? y = some e → d.Alike ρ e)
    (functional : ∀ x y y', ρ x y → ρ x y' → y = y')
    (injective : ∀ x x' y, ρ x y → ρ x' y → x = x') {p q q' : String × String}
    (pointed : Pointed s r ρ p) (down : ReflTransGen (Inside s r) p q)
    (further : TransGen (Inside s r) q q') : q.1 = q'.1 ↔ q.2 = q'.2 := by
  have step : ∀ p q, Inside s r p q → Referring ρ p.1 p.2 → Referring ρ q.1 q.2 := by
    rintro p q ⟨d, e, f, g, found, found', member, -, named, named'⟩ referring
    have plain : (splitMarker p.1).1 = false := by
      by_contra marked
      rw [Schema.get?_of_marked unmarked (by simpa using marked)] at found
      cases found
    have names := referring.2
    rw [splitMarker_of_unmarked plain, splitMarker_of_unmarked (referring.1 ▸ plain)] at names
    have fields := (alike _ _ _ _ names found found').kind.fields
    have similar := List.forall₂_zip fields member
    exact named ▸ named' ▸ similar.typeRef
  have same : ∀ p q : String × String, Referring ρ p.1 p.2 → Referring ρ q.1 q.2 →
      (p.1 = q.1 ↔ p.2 = q.2) := by
    intro p q left right
    rw [← splitMarker_inj, ← splitMarker_inj, Prod.ext_iff, Prod.ext_iff, ← left.1, ← right.1]
    refine and_congr_right fun _ => ⟨fun names => ?_, fun names => ?_⟩
    · exact functional _ _ _ left.2 (names ▸ right.2)
    · exact injective _ _ _ left.2 (names ▸ right.2)
  have top : Referring ρ p.1 p.2 := by
    obtain ⟨x, y, d, e, names, found, found', pointer, pointer'⟩ := pointed
    have both := (alike x y d e names found found').options.pointer
    rw [pointer, pointer', Option.rel_some_some] at both
    exact both
  have along : ∀ q, ReflTransGen (Inside s r) p q → Referring ρ q.1 q.2 := by
    intro q steps
    induction steps with
    | refl => exact top
    | tail _ inside ih => exact step _ _ inside ih
  exact same q q' (along q down) (along q' (down.trans further.to_reflTransGen))

/-- Names that are related one to one make up a renaming if they lead to alike definitions. -/
theorem Renaming.of_injective {s r : Schema} {ρ : String → String → Prop} (proper : s.Proper)
    (related : ∀ x y, ρ x y → (BaseType.ofName? x).isSome ∧ y = x ∨
      ∃ d e, s.get? x = some d ∧ r.get? y = some e ∧ d.Alike ρ e)
    (functional : ∀ x y y', ρ x y → ρ x y' → y = y')
    (injective : ∀ x x' y, ρ x y → ρ x' y → x = x') : Renaming s r ρ := by
  refine ⟨related, fun p q q' => apart_of_injective proper.unmarked ?_ functional injective⟩
  intro x y d e names found found'
  rcases related x y names with ⟨base, -⟩ | ⟨d', e', own, own', similar⟩
  · rw [proper.get?_of_baseType base] at found
    cases found
  · rw [found] at own
    rw [found'] at own'
    cases own
    cases own'
    exact similar

/-- Base types are not declared, so a renaming is a translation. -/
theorem Renaming.translation {s r : Schema} {ρ : String → String → Prop}
    (renames : Renaming s r ρ) (proper : s.Proper) (proper' : r.Proper) : Translation s r ρ := by
  refine ⟨fun x y names => ?_, renames.apart⟩
  rcases renames.related x y names with ⟨base, rfl⟩ | declared
  · exact Or.inl ⟨proper.get?_of_baseType base, proper'.get?_of_baseType base, rfl⟩
  · exact Or.inr declared

section Derived

variable {ρ : String → String → Prop} {d e : TypeDefinition}

theorem TypeDefinition.Alike.baseType (alike : d.Alike ρ e) : d.baseType = e.baseType :=
  alike.kind.baseType

theorem TypeDefinition.Alike.toEnumeration (alike : d.Alike ρ e) :
    Option.Rel (fun t u => t = d ∧ u = e ∨ t.Listed u)
      d.toEnumeration.toOption e.toEnumeration.toOption := by
  have created : ∀ (items : List Item) (x y x' y' : String) (byId : Bool),
      Option.Rel (fun t u => t = d ∧ u = e ∨ t.Listed u)
        ((create x (.enumerated items) { byId } y).mapError Error.parse).toOption
        ((create x' (.enumerated items) { byId } y').mapError Error.parse).toOption := by
    intro items x y x' y' byId
    simp only [Except.toOption_mapError, create, memberKeys]
    cases duplicate? [] [] (items.map fun i => (i.id, i.value)) with
    | some fault => exact .none
    | none => exact .some (Or.inr ⟨items, byId, rfl, rfl, rfl, rfl⟩)
  have items : ∀ {fs gs : List Field}, List.Forall₂ (Field.Alike ρ) fs gs →
      fs.map (fun f => (⟨f.id, f.name, f.description⟩ : Item)) =
        gs.map fun f => ⟨f.id, f.name, f.description⟩ := by
    intro fs gs fields
    refine Validation.map_congr_of_forall₂ fields fun f g same => ?_
    rw [same.id, same.name, same.description]
  have kinds := alike.kind
  unfold TypeDefinition.toEnumeration
  rw [alike.options.byId]
  generalize d.kind = k at kinds ⊢
  generalize e.kind = k' at kinds ⊢
  cases kinds with
  | enumerated => exact .some (Or.inl ⟨rfl, rfl⟩)
  | choice h | array h | map h | record h =>
    simp only [items h]
    exact created _ _ _ _ _ _
  | _ => exact .none

theorem TypeDefinition.Alike.listed (alike : d.Alike ρ e) :
    d.toEnumeration.toOption.map (·.items) = e.toEnumeration.toOption.map (·.items) := by
  have enumerations := alike.toEnumeration
  generalize d.toEnumeration.toOption = a at enumerations ⊢
  generalize e.toEnumeration.toOption = b at enumerations ⊢
  rcases enumerations with @⟨t, u, ⟨rfl, rfl⟩ | ⟨items, byId, -, -, left, right⟩⟩ | _
  · simp [TypeDefinition.items, alike.kind.items]
  · simp [TypeDefinition.items, left, right]
  · rfl

end Derived

section Paths

variable {s r : Schema} {ρ : String → String → Prop}
  (unmarked : ∀ d ∈ s.types, Unmarked d.name) (unmarked' : ∀ d ∈ r.types, Unmarked d.name)
  (translates : Translation s r ρ)

theorem flatMap_congr_of_forall₂ {α β γ : Type} {R : α → β → Prop} {xs : List α} {ys : List β}
    (h : List.Forall₂ R xs ys) {f : α → List γ} {g : β → List γ}
    (same : ∀ x y, R x y → f x = g y) : xs.flatMap f = ys.flatMap g := by
  induction h with
  | nil => rfl
  | cons head _ ih => rw [List.flatMap_cons, List.flatMap_cons, same _ _ head, ih]

include unmarked unmarked' translates

/-- What the paths of alike fields go on into is alike, if there is anything. -/
theorem nested?_cases {f g : Field} (alike : f.Alike ρ g) :
    (Extensions.nested? s.types f = none ∧ Extensions.nested? r.types g = none) ∨
      ∃ d e, Extensions.nested? s.types f = some d ∧ Extensions.nested? r.types g = some e ∧
        s.get? f.typeRef = some d ∧ r.get? g.typeRef = some e ∧ f.options.dir = true ∧
        d.Alike ρ e := by
  unfold Extensions.nested?
  have looked : ∀ {s : Schema} {x : String}, s.get? x = declared? s.types x := rfl
  simp only [← looked]
  have nothing : s.get? f.typeRef = none → r.get? g.typeRef = none →
      ((s.get? f.typeRef).filter fun d => f.options.dir && d.hasFields && !d.isEnumeration) = none ∧
      ((r.get? g.typeRef).filter fun d => g.options.dir && d.hasFields && !d.isEnumeration) =
        none := by
    intro none none'
    simp [none, none']
  cases marked : (splitMarker f.typeRef).1 with
  | true =>
    exact Or.inl (nothing (Schema.get?_of_marked unmarked marked)
      (Schema.get?_of_marked unmarked' (alike.typeRef.1 ▸ marked)))
  | false =>
    have names := alike.typeRef.2
    rw [splitMarker_of_unmarked marked, splitMarker_of_unmarked (alike.typeRef.1 ▸ marked)] at names
    rcases translates.related _ _ names with ⟨free, free', -⟩ | ⟨d, e, found, found', similar⟩
    · exact Or.inl (nothing free free')
    · have dir := alike.options.dir
      have fields : d.hasFields = e.hasFields := by
        simp only [TypeDefinition.hasFields, similar.baseType]
      have enumeration : d.isEnumeration = e.isEnumeration := by
        simp only [TypeDefinition.isEnumeration, similar.baseType]
      rw [found, found', Option.filter_some, Option.filter_some, dir, fields, enumeration]
      cases through : g.options.dir && e.hasFields && !e.isEnumeration with
      | false => exact Or.inl ⟨rfl, rfl⟩
      | true =>
        simp only [Bool.and_eq_true] at through
        exact Or.inr ⟨d, e, rfl, rfl, rfl, rfl, through.1.1, similar⟩

theorem paths_eq {root : String × String} (pointed : Pointed s r ρ root) (fuel : Nat)
    (chain : List (String × String)) {d e : TypeDefinition}
    (found : s.get? d.name = some d) (found' : r.get? e.name = some e) (alike : d.Alike ρ e)
    (reached : ReflTransGen (Inside s r) root (d.name, e.name))
    (above : ∀ q ∈ chain, ReflTransGen (Inside s r) root q ∧
      TransGen (Inside s r) q (d.name, e.name)) :
    Extensions.paths s.types fuel (chain.map Prod.fst) d =
      Extensions.paths r.types fuel (chain.map Prod.snd) e := by
  induction fuel generalizing chain d e with
  | zero => rfl
  | succ fuel ih =>
    have entered : d.name ∈ chain.map Prod.fst ↔ e.name ∈ chain.map Prod.snd := by
      simp only [List.mem_map]
      refine exists_congr fun q => and_congr_right fun member => ?_
      obtain ⟨from_root, down⟩ := above q member
      exact translates.apart root q _ pointed from_root down
    rw [Extensions.paths, Extensions.paths]
    by_cases present : e.name ∈ chain.map Prod.snd
    · rw [if_pos present, if_pos (entered.mpr present)]
    · rw [if_neg present, if_neg (present ∘ entered.mp)]
      refine flatMap_congr_of_forall₂ (forall₂_zipped alike.kind.fields) ?_
      rintro f g ⟨similar, member⟩
      rcases nested?_cases unmarked unmarked' translates similar with
        ⟨none, none'⟩ | ⟨t, u, inner, inner', declared, declared', dir, further⟩
      · simp only [none, none', similar.name, similar.description]
      · obtain ⟨-, named⟩ := mem_of_declared? declared
        obtain ⟨-, named'⟩ := mem_of_declared? declared'
        have step : Inside s r (d.name, e.name) (t.name, u.name) :=
          ⟨d, e, f, g, found, found', member, dir, named.symm, named'.symm⟩
        have rest := ih ((d.name, e.name) :: chain) (d := t) (e := u)
          (named ▸ declared) (named' ▸ declared') further (reached.tail step) (by
            intro q member
            rcases List.mem_cons.mp member with rfl | before
            · exact ⟨reached, .single step⟩
            · exact ⟨(above q before).1, (above q before).2.tail step⟩)
        simp only [List.map_cons] at rest
        simp only [inner, inner', similar.name, rest]

theorem pathItems_eq {root : String × String} (pointed : Pointed s r ρ root)
    {d e : TypeDefinition} (found : s.get? root.1 = some d) (found' : r.get? root.2 = some e)
    (alike : d.Alike ρ e) :
    Extensions.pathItems s.types d = Extensions.pathItems r.types e := by
  obtain ⟨hd, named⟩ := mem_of_declared? found
  obtain ⟨he, named'⟩ := mem_of_declared? found'
  refine Extensions.pathItems_congr hd he fun fuel => ?_
  refine paths_eq unmarked unmarked' translates pointed fuel [] (named.symm ▸ found)
    (named'.symm ▸ found') alike ?_ (by simp)
  rw [named, named']

theorem items?_eq {x y : String} {d e : TypeDefinition} (related : ρ x y)
    (found : s.get? x = some d) (found' : r.get? y = some e) (alike : d.Alike ρ e) :
    (Extensions.items? s.types d).toOption = (Extensions.items? r.types e).toOption := by
  have kinds := alike.kind
  have sources := alike.options.enumeration
  have pointers := alike.options.pointer
  have looked : ∀ (s : Schema) x, declared? s.types x = s.get? x := fun s x => rfl
  have pointed : ∀ a b, d.options.pointer = some a → e.options.pointer = some b →
      Pointed s r ρ (a, b) := fun a b left right => ⟨x, y, d, e, related, found, found', left, right⟩
  unfold Extensions.items?
  generalize d.options.enumeration = a at sources ⊢
  generalize e.options.enumeration = b at sources ⊢
  generalize d.options.pointer = a' at pointers pointed ⊢
  generalize e.options.pointer = b' at pointers pointed ⊢
  generalize d.kind = k at kinds ⊢
  generalize e.kind = k' at kinds ⊢
  cases kinds with
  | enumerated =>
    rcases sources with @⟨a, b, source⟩ | _
    · simp only [looked]
      rcases translates.related _ _ source.2 with ⟨free, free', -⟩ | ⟨t, u, taken, taken', similar⟩
      · rw [free, free']
      · rw [taken, taken']
        have listed := similar.listed
        cases left : t.toEnumeration <;> cases right : u.toEnumeration <;>
          simp_all [Except.toOption, Except.map]
    · rcases pointers with @⟨a, b, source⟩ | _
      · simp only [looked]
        cases marked : (splitMarker a).1 with
        | true =>
          rw [Schema.get?_of_marked unmarked marked,
            Schema.get?_of_marked unmarked' (source.1 ▸ marked)]
          rfl
        | false =>
          have names := source.2
          rw [splitMarker_of_unmarked marked, splitMarker_of_unmarked (source.1 ▸ marked)] at names
          rcases translates.related _ _ names with ⟨free, free', -⟩ | ⟨t, u, taken, taken', similar⟩
          · rw [free, free']
            rfl
          · rw [taken, taken', Option.map_some, Option.map_some,
              pathItems_eq unmarked unmarked' translates (pointed a b rfl rfl) taken taken' similar]
      · rfl
  | _ =>
    rcases sources with source | _ <;> rcases pointers with pointer | _ <;> rfl

end Paths

section Matching

def Known (s r : Schema) (ρ : String → String → Prop) (a b : String) : Prop :=
  Referring ρ a b ∧ ((splitMarker a).1 = true →
    a ∈ s.types.flatMap (·.markedReferences) ∧ b ∈ r.types.flatMap (·.markedReferences))

variable {s r : Schema} {ρ : String → String → Prop}

theorem Options.Alike.known {o o' : Options} (alike : o.Alike ρ o')
    (stands : ∀ a ∈ o.vtype.toList ++ o.ktype.toList, (splitMarker a).1 = true →
      a ∈ s.types.flatMap (·.markedReferences))
    (stands' : ∀ a ∈ o'.vtype.toList ++ o'.ktype.toList, (splitMarker a).1 = true →
      a ∈ r.types.flatMap (·.markedReferences)) : o.Agree (Known s r ρ) o' := by
  refine alike.toAgree.imp fun a b ha hb referring => ⟨referring, fun marked => ?_⟩
  exact ⟨stands a ha marked, stands' b hb (referring.1 ▸ marked)⟩

theorem mem_markedReferences {s : Schema} {d : TypeDefinition} (hd : d ∈ s.types) {a : String}
    (marked : (splitMarker a).1 = true) (h : a ∈ d.lookedUp) :
    a ∈ s.types.flatMap (·.markedReferences) :=
  List.mem_flatMap.mpr ⟨d, hd, TypeDefinition.mem_markedReferences_iff.mpr ⟨h, marked⟩⟩

section Definitions

variable (proper : s.Proper) (proper' : r.Proper)
include proper proper'

theorem TypeDefinition.Alike.matched {d e : TypeDefinition} (alike : d.Alike ρ e)
    (hd : d ∈ s.types) (he : e ∈ r.types) (names : (d.fields.map Field.name).Nodup) :
    Matched s r (Known s r ρ) d e := by
  have stands := fun a h marked => mem_markedReferences hd (a := a) marked h
  have stands' := fun a h marked => mem_markedReferences he (a := a) marked h
  refine .of_declared proper.tables proper'.tables hd he names
    (alike.options.known (fun a ha => stands a (List.mem_append_left _ ha))
      fun a ha => stands' a (List.mem_append_left _ ha))
    (alike.kind.of_fields ((forall₂_zipped alike.kind.fields).imp ?_))
  rintro f g ⟨same, member⟩
  obtain ⟨hf, hg⟩ := List.of_mem_zip member
  have inFields := fun a h => TypeDefinition.mem_lookedUp_of_field hf (a := a) h
  have inFields' := fun a h => TypeDefinition.mem_lookedUp_of_field hg (a := a) h
  exact {
    id := same.id
    name := same.name
    options := same.options.known (fun a ha => stands a (inFields a (Or.inr ha)))
      fun a ha => stands' a (inFields' a (Or.inr ha))
    typeRef := ⟨same.typeRef, fun marked => ⟨stands _ (inFields _ (Or.inl rfl)) marked,
      stands' _ (inFields' _ (Or.inl rfl)) (same.typeRef.1 ▸ marked)⟩⟩ }

end Definitions

section Meaning

variable (proper : s.Proper) (proper' : r.Proper) (translates : Translation s r ρ)
  (names : ∀ d ∈ s.types, (d.fields.map Field.name).Nodup)
include proper proper' translates names

/-- Related names and marked references to them denote definitions that match. -/
theorem lookup?_matched {a b : String} (known : Known s r ρ a b) :
    Option.Rel (Matched s r (Known s r ρ)) (s.lookup? a) (r.lookup? b) := by
  obtain ⟨⟨markers, related⟩, stands⟩ := known
  have declared : ∀ (s : Schema) x, declared? s.types x = s.get? x := fun s x => rfl
  cases marked : (splitMarker a).1 with
  | true =>
    obtain ⟨left, right⟩ := stands marked
    have marked' : (splitMarker b).1 = true := markers ▸ marked
    rw [proper.tables.lookup?_of_marked (proper.get?_of_marked marked) marked left,
      proper'.tables.lookup?_of_marked (proper'.get?_of_marked marked') marked' right]
    simp only [Extensions.derived?, declared]
    rcases translates.related _ _ related with ⟨free, free', -⟩ | ⟨d, e, found, found', alike⟩
    · rw [free, free']
      exact .none
    · rw [found, found', Option.bind_some, Option.bind_some]
      refine rel_imp alike.toEnumeration ?_
      rintro t u - - (⟨rfl, rfl⟩ | listed)
      · obtain ⟨hd, -⟩ := mem_of_declared? found
        exact alike.matched proper proper' hd (mem_of_declared? found').1 (names _ hd)
      · exact listed.matched
  | false =>
    have marked' : (splitMarker b).1 = false := markers ▸ marked
    rw [splitMarker_of_unmarked marked, splitMarker_of_unmarked marked'] at related
    rw [proper.tables.lookup?_of_unmarked marked, proper'.tables.lookup?_of_unmarked marked']
    simp only [declared]
    rcases translates.related _ _ related with ⟨free, free', base⟩ | ⟨d, e, found, found', alike⟩
    · rw [free, free', base]
      exact matched_builtin _
    · obtain ⟨hd, -⟩ := mem_of_declared? found
      have matched := alike.matched proper proper' hd (mem_of_declared? found').1 (names _ hd)
      have taken := items?_eq proper.unmarked proper'.unmarked translates related found found' alike
      rw [found, found', Option.bind_some, Option.bind_some, Option.some_or, Option.some_or,
        Extensions.own?, Extensions.own?, taken]
      cases (Extensions.items? r.types e).toOption.join with
      | none => exact .some matched
      | some items => exact .some ⟨matched.options, .enumerated items⟩

theorem Translation.isValid_eq (bounds : SameBounds s r) {x y : String} (related : ρ x y)
    (unmarked : Unmarked x) (unmarked' : Unmarked y) (v : Json) :
    s.isValid x v = r.isValid y v := by
  have known : Known s r ρ x y := by
    refine ⟨⟨unmarked.trans unmarked'.symm, ?_⟩, fun marked => ?_⟩
    · rwa [splitMarker_of_unmarked unmarked, splitMarker_of_unmarked unmarked']
    · exact absurd marked unmarked.not_marked
  have looked := fun a b => lookup?_matched proper proper' translates names (a := a) (b := b)
  exact (simulation_of_looked looked proper.tables proper'.tables bounds).isValid_eq
    (looked x y known) v

omit translates in
theorem Renaming.isValid_eq (renames : Renaming s r ρ) (bounds : SameBounds s r) {x y : String}
    (related : ρ x y) (v : Json) : s.isValid x v = r.isValid y v := by
  have unmarked : Unmarked x ∧ Unmarked y := by
    rcases renames.related x y related with ⟨base, rfl⟩ | ⟨d, e, found, found', -⟩
    · exact ⟨unmarked_of_baseType base, unmarked_of_baseType base⟩
    · obtain ⟨hd, rfl⟩ := mem_of_declared? found
      obtain ⟨he, rfl⟩ := mem_of_declared? found'
      exact ⟨proper.unmarked d hd, proper'.unmarked e he⟩
  exact (renames.translation proper proper').isValid_eq proper proper' names bounds related
    unmarked.1 unmarked.2 v

end Meaning

end Matching

end Jadn
