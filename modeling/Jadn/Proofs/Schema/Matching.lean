import Jadn.Proofs.Schema.Lookup

/-!
Schemas that look up definitions which match.

Given which references of one schema stand for which of another one, two definitions match if
they agree in everything that is checked, up to these references. If references that stand for
each other denote matching definitions, or both nothing, then instances are accepted alike.
-/

set_option autoImplicit false

namespace Jadn

open Validation (Simulation Corresponds SameBounds)

structure Field.Matches (known : String → String → Prop) (f g : Field) : Prop where
  id : f.id = g.id
  name : f.name = g.name
  options : f.options.Agree known g.options
  typeRef : known f.typeRef g.typeRef

/-- Fields that match, whose types are what they refer to, with the type options of the field. -/
structure MatchedFields (s r : Schema) (known : String → String → Prop) (owner owner' : String)
    (f g : Field) : Prop extends Field.Matches known f g where
  fieldType : s.fieldType? owner f =
    (s.lookup? f.typeRef).map fun t => t.refined t.name f.options.typeOptions
  fieldType' : r.fieldType? owner' g =
    (r.lookup? g.typeRef).map fun t => t.refined t.name g.options.typeOptions

/-- Definitions equal in what is checked, but for their references. -/
structure Matched (s r : Schema) (known : String → String → Prop) (d e : TypeDefinition) :
    Prop where
  options : d.options.Agree known e.options
  kind : d.kind.Alike (MatchedFields s r known d.name e.name) e.kind

def TypeDefinition.Listed (t u : TypeDefinition) : Prop :=
  ∃ items byId, t.options = { byId } ∧ u.options = { byId } ∧ t.kind = .enumerated items ∧
    u.kind = .enumerated items

section Matching

variable {s r : Schema} {known : String → String → Prop}

theorem agree_empty {same : String → String → Prop} (byId : Bool) :
    Options.Agree same { byId } { byId } where
  blank := rfl
  minf := .none
  maxf := .none
  vtype := .none
  ktype := .none

theorem TypeDefinition.Listed.matched {t u : TypeDefinition} (listed : t.Listed u) :
    Matched s r known t u := by
  obtain ⟨items, byId, options, options', kind, kind'⟩ := listed
  refine ⟨?_, ?_⟩
  · rw [options, options']
    exact agree_empty byId
  · rw [kind, kind']
    exact .enumerated items

theorem Matched.refined {d e : TypeDefinition} (matched : Matched s r known d e) {o o' : Options}
    (agree : o.Agree known o') : Matched s r known (d.refined d.name o) (e.refined e.name o') :=
  ⟨matched.options.merge agree, matched.kind⟩

theorem matched_builtin (name : String) :
    Option.Rel (Matched s r known) (builtin? name) (builtin? name) := by
  refine rel_refl fun d found => ?_
  obtain ⟨base, -, rfl⟩ := Option.map_eq_some_iff.mp found
  refine ⟨agree_empty false, ?_⟩
  unfold TypeDefinition.plain
  cases base <;> simp only [Kind.ofBaseType] <;> constructor <;> exact .nil

theorem Matched.of_declared (tables : Schema.Tables s.info s.types s.limits s)
    (tables' : Schema.Tables r.info r.types r.limits r) {d e : TypeDefinition} (hd : d ∈ s.types)
    (he : e ∈ r.types) (names : (d.fields.map Field.name).Nodup)
    (options : d.options.Agree known e.options) (kind : d.kind.Alike (Field.Matches known) e.kind) :
    Matched s r known d e := by
  have same : d.fields.map Field.name = e.fields.map Field.name :=
    Validation.map_congr_of_forall₂ kind.fields fun f g same => same.name
  have names' : (e.fields.map Field.name).Nodup := same ▸ names
  refine ⟨options, kind.of_fields ((forall₂_zipped kind.fields).imp ?_)⟩
  rintro f g ⟨matching, member⟩
  obtain ⟨hf, hg⟩ := List.of_mem_zip member
  exact { matching with
    fieldType := tables.fieldType?_eq hd names hf
    fieldType' := tables'.fieldType?_eq he names' hg }

section Looked

variable (looked : ∀ a b, known a b →
  Option.Rel (Matched s r known) (s.lookup? a) (r.lookup? b))
include looked

theorem Matched.corresponds {d e : TypeDefinition} (matched : Matched s r known d e) :
    Corresponds s r (Matched s r known) d e := by
  refine ⟨matched.options.imp fun a b _ _ => looked a b, ?_⟩
  refine matched.kind.of_fields (matched.kind.fields.imp fun f g same => ?_)
  refine { id := same.id, name := same.name, minc := same.options.minc, maxc := same.options.maxc,
           fieldType := ?_ }
  rw [same.fieldType, same.fieldType']
  have types := looked _ _ same.typeRef
  generalize s.lookup? f.typeRef = x at types ⊢
  generalize r.lookup? g.typeRef = y at types ⊢
  rcases types with matched | _
  · exact .some (matched.refined same.options.typeOptions)
  · exact .none

/-- Matching definitions are checked alike. -/
theorem simulation_of_looked (tables : Schema.Tables s.info s.types s.limits s)
    (tables' : Schema.Tables r.info r.types r.limits r) (bounds : SameBounds s r) :
    Simulation s r (Matched s r known) where
  limits := bounds
  compiled := tables.compiled
  compiled' := tables'.compiled
  corresponds := fun _ _ matched => matched.corresponds looked

end Looked

end Matching

end Jadn
