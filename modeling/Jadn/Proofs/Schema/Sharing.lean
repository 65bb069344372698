import Jadn.Proofs.Schema.Lookup
import Jadn.Proofs.Validation.Locality

/-!
Schemas that declare the same under some names.

If two schemas agree on the names that can be reached from one name, then they look up the
same for every reference on the way: what is declared, what is derived from it, and the paths
of pointers. So an instance has the same outcome under that name in both.
-/

set_option autoImplicit false

namespace Jadn

open Validation (Region SameBounds)

/-- Names under which two schemas declare the same, together with all that is referred to. No
definition goes by a marked reference to one of them. -/
structure Shares (s r : Schema) (X : String → Prop) : Prop where
  declared : ∀ x, X x → s.get? x = r.get? x
  marked : ∀ x, X x → s.get? (markedReference x) = none ∧ r.get? (markedReference x) = none
  closed : ∀ x, X x → ∀ d ∈ s.get? x, ∀ y ∈ d.referredNames, X y

namespace Shares

variable {s r : Schema} {X : String → Prop} (shares : Shares s r X)
include shares

/-- Both schemas declare the same under a reference to a shared name, marked or not. -/
theorem get?_eq {a : String} (h : X (splitMarker a).2) : s.get? a = r.get? a := by
  cases marked : (splitMarker a).1 with
  | true =>
    rw [splitMarker_of_marked marked, (shares.marked _ h).1, (shares.marked _ h).2]
  | false =>
    rw [splitMarker_of_unmarked marked] at h
    exact shares.declared a h

theorem shared_of_get? {a : String} (h : X (splitMarker a).2) {d : TypeDefinition}
    (found : s.get? a = some d) : d.name = a ∧ X a := by
  refine ⟨(mem_of_declared? found).2, ?_⟩
  cases marked : (splitMarker a).1 with
  | true =>
    rw [splitMarker_of_marked marked, (shares.marked _ h).1] at found
    cases found
  | false => rwa [splitMarker_of_unmarked marked] at h

theorem closed_of_get? {x : String} (h : X x) {d : TypeDefinition} (found : s.get? x = some d) :
    ∀ y ∈ d.referredNames, X y :=
  shares.closed x h d found

section Derived

variable {x : String} {d : TypeDefinition} (h : X x) (found : s.get? x = some d)
include h found

theorem nested?_eq {f : Field} (hf : f ∈ d.fields) :
    Extensions.nested? s.types f = Extensions.nested? r.types f := by
  have own : (splitMarker f.typeRef).2 ∈ d.referredNames :=
    TypeDefinition.mem_referredNames_of_lookedUp
      (TypeDefinition.mem_lookedUp_of_field hf (Or.inl rfl))
  have same := shares.get?_eq (shares.closed_of_get? h found _ own)
  rw [Extensions.nested?, Extensions.nested?]
  exact congrArg _ same

theorem paths_eq (fuel : Nat) (entered : List String) :
    Extensions.paths s.types fuel entered d = Extensions.paths r.types fuel entered d := by
  induction fuel generalizing entered x d with
  | zero => rfl
  | succ fuel ih =>
    rw [Extensions.paths, Extensions.paths]
    congr 1
    refine List.flatMap_congr fun f hf => ?_
    rw [← shares.nested?_eq h found hf]
    cases inner : Extensions.nested? s.types f with
    | none => rfl
    | some t =>
      have own : (splitMarker f.typeRef).2 ∈ d.referredNames :=
        TypeDefinition.mem_referredNames_of_lookedUp
          (TypeDefinition.mem_lookedUp_of_field hf (Or.inl rfl))
      have declared : s.get? f.typeRef = some t := (Option.filter_eq_some_iff.mp inner).1
      obtain ⟨-, shared⟩ :=
        shares.shared_of_get? (shares.closed_of_get? h found _ own) declared
      simp only [ih shared declared]

theorem items?_eq : Extensions.items? s.types d = Extensions.items? r.types d := by
  have reached : ∀ a, (splitMarker a).2 ∈ d.options.references → X (splitMarker a).2 :=
    fun a member => shares.closed_of_get? h found _ (List.mem_append_left _ member)
  have declared : ∀ (s : Schema) y, declared? s.types y = s.get? y := fun s y => rfl
  unfold Extensions.items?
  split
  · next source _ taken =>
    have known : X (splitMarker source).2 := reached source (by simp [Options.references, taken])
    simp only [declared, shares.declared _ known]
  · next source _ _ taken =>
    have known : X (splitMarker source).2 := reached source (by simp [Options.references, taken])
    have same := shares.get?_eq known
    simp only [declared, ← same]
    cases pointed : s.get? source with
    | none => rfl
    | some t =>
      obtain ⟨-, shared⟩ := shares.shared_of_get? known pointed
      have items : Extensions.pathItems s.types t = Extensions.pathItems r.types t :=
        Extensions.pathItems_congr (mem_of_declared? pointed).1
          (mem_of_declared? (same ▸ pointed)).1 fun fuel => shares.paths_eq shared pointed fuel []
      simp only [Option.map_some, items]
  · rfl

end Derived

end Shares

def Schema.Shared (s r : Schema) (X : String → Prop) (a : String) : Prop :=
  X (splitMarker a).2 ∧ ((splitMarker a).1 = true →
    a ∈ s.types.flatMap (·.markedReferences) ∧ a ∈ r.types.flatMap (·.markedReferences))

theorem Schema.shared_of_unmarked {s r : Schema} {X : String → Prop} {x : String} (h : X x)
    (unmarked : Unmarked x) : s.Shared r X x := by
  refine ⟨(splitMarker_of_unmarked unmarked).symm ▸ h, fun marked => ?_⟩
  exact absurd marked unmarked.not_marked

theorem Shares.shared_of_lookedUp {s r : Schema} {X : String → Prop} (shares : Shares s r X)
    {x : String} {d : TypeDefinition} (h : X x) (found : s.get? x = some d) {a : String}
    (member : a ∈ d.lookedUp) : s.Shared r X a := by
  have found' : r.get? x = some d := shares.declared x h ▸ found
  refine ⟨shares.closed x h d found _ (TypeDefinition.mem_referredNames_of_lookedUp member),
    fun marked => ⟨?_, ?_⟩⟩
  · exact List.mem_flatMap.mpr
      ⟨d, (mem_of_declared? found).1, TypeDefinition.mem_markedReferences_iff.mpr ⟨member, marked⟩⟩
  · exact List.mem_flatMap.mpr
      ⟨d, (mem_of_declared? found').1,
        TypeDefinition.mem_markedReferences_iff.mpr ⟨member, marked⟩⟩

/-- Definitions that are met below shared names: their fields are those of one of these, and
their options refer to such names. -/
structure Schema.Meets (s r : Schema) (X : String → Prop) (t : TypeDefinition) : Prop where
  fields : t.fields = [] ∨ ∃ d, X d.name ∧ s.get? d.name = some d ∧ t.name = d.name ∧
    t.fields = d.fields
  references : ∀ a ∈ t.options.vtype.toList ++ t.options.ktype.toList, s.Shared r X a

theorem Options.mem_merge {o p : Options} {a : String}
    (h : a ∈ (o.merge p).vtype.toList ++ (o.merge p).ktype.toList) :
    a ∈ o.vtype.toList ++ o.ktype.toList ∨ a ∈ p.vtype.toList ++ p.ktype.toList := by
  have one : ∀ x y : Option String, a ∈ (x <|> y).toList → a ∈ x.toList ∨ a ∈ y.toList := by
    intro x y member
    cases x with
    | none => exact Or.inr member
    | some x => exact Or.inl member
  rcases List.mem_append.mp h with value | key
  · rcases one _ _ value with later | own
    · exact Or.inr (List.mem_append_left _ later)
    · exact Or.inl (List.mem_append_left _ own)
  · rcases one _ _ key with later | own
    · exact Or.inr (List.mem_append_right _ later)
    · exact Or.inl (List.mem_append_right _ own)

namespace Schema.Meets

variable {s r : Schema} {X : String → Prop}

theorem of_builtin {name : String} {d : TypeDefinition} (found : builtin? name = some d) :
    s.Meets r X d := by
  obtain ⟨base, -, rfl⟩ := Option.map_eq_some_iff.mp found
  refine ⟨Or.inl ?_, by simp [TypeDefinition.plain]⟩
  cases base <;> rfl

theorem of_get? (shares : Shares s r X) {x : String} {d : TypeDefinition} (h : X x)
    (found : s.get? x = some d) : s.Meets r X d := by
  obtain ⟨-, rfl⟩ := mem_of_declared? found
  exact ⟨Or.inr ⟨d, h, found, rfl, rfl⟩,
    fun a member => shares.shared_of_lookedUp h found (List.mem_append_left _ member)⟩

theorem of_toEnumeration (shares : Shares s r X) {x : String} {d e : TypeDefinition} (h : X x)
    (found : s.get? x = some d) (derived : d.toEnumeration = .ok e) : s.Meets r X e := by
  unfold TypeDefinition.toEnumeration at derived
  split at derived
  · cases derived
    exact of_get? shares h found
  all_goals first
    | cases derived
    | (obtain ⟨rfl, -⟩ := TypeDefinition.create_eq_ok_iff.mp (Except.mapError_eq_ok_iff.mp derived)
       exact ⟨Or.inl rfl, by simp⟩)

theorem refined {t : TypeDefinition} (meets : s.Meets r X t) {o : Options}
    (listed : ∀ a ∈ o.vtype.toList ++ o.ktype.toList, s.Shared r X a) :
    s.Meets r X (t.refined t.name o.typeOptions) := by
  refine ⟨meets.fields, fun a member => ?_⟩
  rcases Options.mem_merge member with own | later
  · exact meets.references a own
  · exact listed a later

end Schema.Meets

namespace Shares

variable {s r : Schema} {X : String → Prop} (shares : Shares s r X)
  (tables : Schema.Tables s.info s.types s.limits s)
  (tables' : Schema.Tables r.info r.types r.limits r)
include shares tables

theorem lookup?_meets {a : String} (shared : s.Shared r X a) {t : TypeDefinition}
    (found : s.lookup? a = some t) : s.Meets r X t := by
  obtain ⟨h, stands⟩ := shared
  cases marked : (splitMarker a).1 with
  | true =>
    have undeclared : s.get? a = none := by
      rw [splitMarker_of_marked marked]
      exact (shares.marked _ h).1
    rw [tables.lookup?_of_marked undeclared marked (stands marked).1] at found
    obtain ⟨d, declared, derived⟩ := Option.bind_eq_some_iff.mp found
    exact .of_toEnumeration shares h declared (Except.toOption_eq_some_iff.mp derived)
  | false =>
    rw [splitMarker_of_unmarked marked] at h
    rw [tables.lookup?_of_unmarked marked] at found
    rcases Option.or_eq_some_iff.mp found with own | ⟨-, rest⟩
    · obtain ⟨d, declared, taken⟩ := Option.bind_eq_some_iff.mp own
      obtain ⟨items, -, rfl⟩ := Option.map_eq_some_iff.mp taken
      exact ⟨Or.inl rfl, (Schema.Meets.of_get? shares h declared).references⟩
    · rcases Option.or_eq_some_iff.mp rest with declared | ⟨-, built⟩
      · exact .of_get? shares h declared
      · exact .of_builtin built

include tables'

/-- A reference to a shared name denotes the same in both schemas. -/
theorem lookup?_eq {a : String} (shared : s.Shared r X a) : s.lookup? a = r.lookup? a := by
  obtain ⟨h, stands⟩ := shared
  cases marked : (splitMarker a).1 with
  | true =>
    have undeclared : s.get? a = none ∧ r.get? a = none := by
      rw [splitMarker_of_marked marked]
      exact shares.marked _ h
    obtain ⟨listed, listed'⟩ := stands marked
    have same : declared? s.types (splitMarker a).2 = declared? r.types (splitMarker a).2 :=
      shares.declared _ h
    rw [tables.lookup?_of_marked undeclared.1 marked listed,
      tables'.lookup?_of_marked undeclared.2 marked listed', Extensions.derived?,
      Extensions.derived?, same]
  | false =>
    rw [splitMarker_of_unmarked marked] at h
    have same : declared? s.types a = declared? r.types a := shares.declared a h
    rw [tables.lookup?_of_unmarked marked, tables'.lookup?_of_unmarked marked, ← same]
    cases found : declared? s.types a with
    | none => rfl
    | some d => simp only [Option.bind_some, Extensions.own?, shares.items?_eq h found]

/-- Definitions met below shared names are checked alike. -/
theorem region (bounds : SameBounds s r)
    (names : ∀ d ∈ s.types, (d.fields.map Field.name).Nodup) : Region s r (s.Meets r X) where
  bounds := bounds
  compiled := tables.compiled
  compiled' := tables'.compiled
  reference := fun t meets a member => by
    have shared := meets.references a member
    exact ⟨shares.lookup?_eq tables tables' shared, fun u found =>
      shares.lookup?_meets tables shared found⟩
  fieldType := fun t meets f hf => by
    rcases meets.fields with none | ⟨d, h, declared, name, fields⟩
    · rw [none] at hf
      cases hf
    · rw [fields] at hf
      have hd := (mem_of_declared? declared).1
      have hd' := (mem_of_declared? (shares.declared _ h ▸ declared)).1
      have shared : ∀ a, a = f.typeRef ∨ a ∈ f.options.vtype.toList ++ f.options.ktype.toList →
          s.Shared r X a := fun a own =>
        shares.shared_of_lookedUp h declared (TypeDefinition.mem_lookedUp_of_field hf own)
      have same := shares.lookup?_eq tables tables' (shared _ (Or.inl rfl))
      rw [name, tables.fieldType?_eq hd (names d hd) hf, tables'.fieldType?_eq hd' (names d hd) hf,
        same]
      refine ⟨rfl, fun u found => ?_⟩
      obtain ⟨t, looked, rfl⟩ := Option.map_eq_some_iff.mp found
      rw [← same] at looked
      have meets := shares.lookup?_meets tables (shared _ (Or.inl rfl)) looked
      exact meets.refined fun a own => shared a (Or.inr own)

theorem validate_eq (bounds : SameBounds s r)
    (names : ∀ d ∈ s.types, (d.fields.map Field.name).Nodup) {x : String} (h : X x)
    (unmarked : Unmarked x) (v : Json) : s.validate x v = r.validate x v := by
  have shared := Schema.shared_of_unmarked (s := s) (r := r) h unmarked
  exact (shares.region tables tables' bounds names).validate_eq
    (shares.lookup?_eq tables tables' shared)
    (fun _ found => shares.lookup?_meets tables shared found) v

end Shares

end Jadn
