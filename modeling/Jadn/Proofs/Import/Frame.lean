import Jadn.Proofs.Import.Meaning
import Jadn.Proofs.Schema.Sharing

/-!
What an import leaves alone.

The definitions that a base reaches without a qualified reference stay as they are, so an
instance has the same outcome under their names, errors included. Imported definitions join the
names of the base, though: one that goes by a name which the base looks up on the way, or by a
marked reference to one, is taken for what was meant there. Neither happens if the base refers
to nothing unknown and no package declares a base type or a marked name.
-/

set_option autoImplicit false

namespace Jadn

open Relation (ReflTransGen)

namespace Schema

def Refers (s : Schema) (x y : String) : Prop := ∃ d, s.get? x = some d ∧ y ∈ d.referredNames

def Reaches (s : Schema) : String → String → Prop := ReflTransGen s.Refers

/-- No imported definition goes by a name that the base reaches from the given one, or by a
marked reference to such a name. -/
def Uncaptured (base r : Schema) (name : String) : Prop :=
  ∀ e ∈ r.types.drop base.types.length, ∀ x, base.Reaches name x →
    e.name ≠ x ∧ e.name ≠ markedReference x

end Schema

namespace Import.Resulted

variable {src : Sources} {Good : String → Prop} {st : State} {r : Schema}
  (result : Resulted src Good st r)
include result

theorem mem_imported_of_undeclared {x : String} {e : TypeDefinition}
    (undeclared : src.base.get? x = none) (found : r.get? x = some e) :
    e ∈ r.types.drop src.base.types.length ∧ e.name = x := by
  obtain ⟨he, rfl⟩ := mem_of_declared? found
  refine ⟨result.mem_drop_iff.mpr ?_, rfl⟩
  rcases result.mem_types_iff.mp he with own | imported
  · obtain ⟨d, hd, rfl⟩ := List.mem_map.mp own
    exact absurd (List.mem_map_of_mem hd) (Schema.get?_eq_none_iff.mp undeclared)
  · exact imported

end Import.Resulted

namespace Schema

open Import

section Frame

variable {base r : Schema} {packages : List Package} {order : HashOrder} {name : String}

/-- What a name reaches is shared by the base and the result. -/
theorem shares_of_uncaptured (names : ∀ d ∈ base.types, Unmarked d.name)
    (h : base.importPackages packages order = .ok r)
    (plain : ∀ x, base.Reaches name x → ':' ∉ x.toList) (free : Uncaptured base r name) :
    Shares base r (base.Reaches name) := by
  obtain ⟨types, st, followed, tables⟩ := importPackages_eq_ok h
  have naming : Names (sources base packages) fun _ => True := ⟨by simp, by simp⟩
  have result := resulted_of_run naming followed tables
  have closed : ∀ x, base.Reaches name x → ∀ d, base.get? x = some d →
      ∀ y ∈ d.referredNames, base.Reaches name y :=
    fun x reached d found y hy => reached.tail ⟨d, found, hy⟩
  refine ⟨fun x reached => ?_, fun x reached => ?_, closed⟩
  · cases found : base.get? x with
    | some d =>
      obtain ⟨hd, rfl⟩ := mem_of_declared? found
      exact (result.get?_of_plain hd fun y hy => plain y (closed _ reached d found y hy)).symm
    | none =>
      cases found' : r.get? x with
      | none => rfl
      | some e =>
        obtain ⟨imported, rfl⟩ := result.mem_imported_of_undeclared found found'
        exact absurd rfl (free e imported _ reached).1
  · have undeclared : base.get? (markedReference x) = none := by
      cases found : base.get? (markedReference x) with
      | none => rfl
      | some d =>
        obtain ⟨hd, named⟩ := mem_of_declared? found
        have unmarked : (splitMarker d.name).1 = false := names d hd
        rw [named, splitMarker_markedReference] at unmarked
        cases unmarked
    refine ⟨undeclared, ?_⟩
    cases found' : r.get? (markedReference x) with
    | none => rfl
    | some e =>
      obtain ⟨imported, named⟩ := result.mem_imported_of_undeclared undeclared found'
      exact absurd named (free e imported x reached).2

/-- A type of the base that reaches no qualified reference has the same outcomes in the result,
unless the name of an imported definition captures a reference on the way. -/
theorem importPackages_validate (built : base.Built)
    (names : ∀ d ∈ base.types, Name.isTypeName d.name = true)
    (h : base.importPackages packages order = .ok r) (declared : name ∈ base.typeNames)
    (plain : ∀ x, base.Reaches name x → ':' ∉ x.toList) (free : Uncaptured base r name)
    (v : Json) : r.validate name v = base.validate name v := by
  have unmarked : ∀ d ∈ base.types, Unmarked d.name := fun d hd =>
    (plain_of_isTypeName (names d hd)).2
  obtain ⟨d, hd, rfl⟩ := List.mem_map.mp declared
  obtain ⟨types, st, -, tables⟩ := importPackages_eq_ok h
  have shares := shares_of_uncaptured unmarked h plain free
  have bounds := Validation.SameBounds.of_eq tables.limits_eq.symm
    (by rw [config, config, tables.info_eq] : base.config = r.config)
  refine (shares.validate_eq built.tables tables.own bounds ?_ .refl (unmarked d hd) v).symm
  exact fun d hd => (built.wellFormed d hd).fieldNames

/-- No reference is captured if the base refers to nothing unknown, and neither names of
definitions nor labels of packages are taken for anything else. -/
theorem uncaptured_of_complete (complete : base.Complete)
    (declared : ∀ p ∈ packages, ∀ d ∈ p.schema.types,
      BaseType.ofName? d.name = none ∧ Unmarked d.name)
    (labels : ∀ label, Labels base packages label → Unmarked label)
    (h : base.importPackages packages order = .ok r) (own : name ∈ base.typeNames)
    (plain : ∀ x, base.Reaches name x → ':' ∉ x.toList) : Uncaptured base r name := by
  obtain ⟨types, st, followed, tables⟩ := importPackages_eq_ok h
  have naming : Names (sources base packages) fun x =>
      BaseType.ofName? x = none ∧ Unmarked x := by
    refine names_of declared fun label name _ known _ => ?_
    exact ⟨ofName?_collisionName label name, unmarked_collisionName (labels label known)⟩
  have result := resulted_of_run naming followed tables
  -- What is reached is declared in the base or a base type.
  have known : ∀ x, base.Reaches name x → x ∈ base.typeNames ∨ (BaseType.ofName? x).isSome := by
    intro x reached
    cases reached with
    | refl => exact Or.inl own
    | @tail y _ before step =>
      obtain ⟨d, found, hx⟩ := step
      rcases complete d (mem_of_declared? found).1 x hx with qualified | base | declared
      · exact absurd qualified (plain x (before.tail ⟨d, found, hx⟩))
      · exact Or.inr base
      · exact Or.inl declared
  intro e imported x reached
  have listed := List.mem_map_of_mem (f := Prod.fst) (result.mem_drop_iff.mp imported)
  obtain ⟨other, unmarked⟩ := result.sound.listed e.name listed
  constructor
  · rintro rfl
    rcases known _ reached with declared | base
    · exact Schema.get?_eq_none_iff.mp (result.sound.apart e.name listed) declared
    · simp [other] at base
  · rintro named
    have marked : (splitMarker e.name).1 = true := by rw [named, splitMarker_markedReference]
    exact unmarked.not_marked marked

end Frame

theorem taken_built : taken.Built := ⟨by decide, .entered, rfl⟩

theorem reaches_taken {x : String} (h : taken.Reaches "Node" x) : x = "Node" ∨ x = "String" := by
  have step : ∀ x y, taken.Refers x y → x = "Node" ∨ x = "String" → y = "String" := by
    rintro _ y ⟨d, found, hy⟩ (rfl | rfl)
    · cases found
      exact List.mem_singleton.mp hy
    · cases found
  induction h with
  | refl => exact Or.inl rfl
  | tail _ refers ih => exact Or.inr (step _ _ refers ih)

/-- A definition of a package goes by another name if the base declares its own one, which
keeps its meaning. -/
theorem importPackages_own :
    ∃ r, taken.importPackages [⟨"pkg", linked⟩] .entered = .ok r ∧ taken.Built ∧
      (∀ d ∈ taken.types, Name.isTypeName d.name = true) ∧ "Node" ∈ taken.typeNames ∧
        (∀ x, taken.Reaches "Node" x → ':' ∉ x.toList) ∧ Uncaptured taken r "Node" ∧
          ∀ v, r.validate "Node" v = taken.validate "Node" v := by
  have succeeds : (taken.importPackages [⟨"pkg", linked⟩] .entered).toOption.isSome = true := by
    decide +kernel
  obtain ⟨r, done⟩ := Option.isSome_iff_exists.mp succeeds
  have done := Except.toOption_eq_some_iff.mp done
  have names : ∀ d ∈ taken.types, Name.isTypeName d.name = true := by
    intro d hd
    rcases List.mem_pair.mp hd with rfl | rfl <;> decide
  have declared : "Node" ∈ taken.typeNames := by decide
  have plain : ∀ x, taken.Reaches "Node" x → ':' ∉ x.toList := by
    intro x reached
    rcases reaches_taken reached with rfl | rfl <;> decide
  have complete : taken.Complete := by
    intro d hd
    rcases List.mem_pair.mp hd with rfl | rfl <;> decide
  have free : Uncaptured taken r "Node" := by
    refine uncaptured_of_complete complete ?_ ?_ done declared plain
    · intro p hp d hd
      rw [List.mem_singleton.mp hp] at hd
      rcases List.mem_pair.mp hd with rfl | rfl <;> exact ⟨rfl, rfl⟩
    · intro label known
      rw [labels_linked rfl known]
      rfl
  exact ⟨r, done, taken_built, names, declared, plain, free,
    importPackages_validate taken_built names done declared plain free⟩

end Schema

end Jadn
