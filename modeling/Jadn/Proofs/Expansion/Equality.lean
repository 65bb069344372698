import Jadn.Proofs.Validation.Equality

/-!
Expansion keeps values equal, and the verdict does not depend on the order of what has none.

One level of expansion makes equal values of equal ones, if the levels below do, since it treats
members by their keys and not by their places. Together with the check, which does not tell
equal values apart, this is true of all of validation. The elements of a list may be permuted: they
are checked by themselves and compared in pairs.
-/

set_option autoImplicit false

namespace Jadn

open Json (Equal EqualMember)

namespace Expansion

open Validation (keyed)

variable {s : Schema} {inner : Expander} {d : TypeDefinition}

section Keys

theorem nodup_keys_map {expand : Field → Json → Json} (formed : d.WellFormed) {ms : Dict Json}
    (distinct : ms.keys.Nodup) (apart : d.KeysApart ms.keys) :
    Dict.keys (ms.map (expandMember d expand)) |>.Nodup := by
  unfold Dict.keys TypeDefinition.KeysApart at *
  rw [List.map_map, List.Nodup, List.pairwise_map]
  refine ((List.pairwise_map.mp distinct).and (List.pairwise_map.mp apart)).imp ?_
  rintro p q ⟨different, fields⟩ same
  have denoted := fieldOfKey?_expandMember formed expand p
  rw [show (expandMember d expand p).1 = (expandMember d expand q).1 from same,
    fieldOfKey?_expandMember formed expand q] at denoted
  cases found : d.fieldOfKey? p.1 with
  | some f => exact fields f found (denoted.trans found)
  | none =>
    rw [found] at denoted
    exact different (by simpa [expandMember, found, denoted] using same)

theorem nodup_keys_keyed (formed : d.WellFormed) (values : List Json) :
    (keyed d.fields d.options.byId values).keys.Nodup := by
  refine (Validation.keysApart_keyed formed values).imp_of_mem ?_
  rintro key _ member - apart rfl
  obtain ⟨⟨_, v⟩, entry, rfl⟩ := List.mem_map.mp member
  obtain ⟨-, f, paired, printed⟩ := Validation.mem_keyed_iff.mp entry
  have denoted := formed.denotes_of_prints ⟨(List.of_mem_zip paired).1, printed.symm⟩
  exact apart f denoted denoted

/-- The record that an array of values stands for has its members under the keys of its fields. -/
theorem expandValues_eq_keyed {expand : Field → Json → Json} (formed : d.WellFormed)
    (byName : d.options.byId = false) (values : List Json) :
    expandValues expand d.fields values =
      (keyed d.fields d.options.byId values).map (expandMember d expand) := by
  rw [map_expandMember_keyed formed values, byName]
  rfl

end Keys

section Scalars

theorem expandLevel_scalar {v : Json} (array : v.arr? = none) (object : v.obj? = none) :
    expandLevel s inner d v = v ∨ ∃ text, expandLevel s inner d v = .str text := by
  unfold expandLevel
  dsimp only
  split
  · split
    · exact Or.inl rfl
    · unfold expandItem
      split
      · exact Or.inr ⟨_, rfl⟩
      · exact Or.inl rfl
  all_goals first
    | exact Or.inl rfl
    | (cases array; done)
    | cases object

theorem distinct_expandLevel {v : Json} (array : v.arr? = none) (object : v.obj? = none)
    (hv : v.Distinct) : (expandLevel s inner d v).Distinct := by
  have either : expandLevel s inner d v = v ∨ ∃ text, expandLevel s inner d v = .str text :=
    expandLevel_scalar array object
  rcases either with kept | ⟨text, made⟩
  · rwa [kept]
  · rw [made]
    exact .str text

end Scalars

/-- Expansion that makes equal values of equal ones, for the definitions of a schema. -/
def Respects (s : Schema) (inner : Expander) : Prop :=
  ∀ t, s.Denotes t → ∀ v w, Equal v w → Equal (inner t v) (inner t w)

section Level

variable (respects : Respects s inner)
include respects

theorem Respects.equal_map {t : TypeDefinition} (denoted : s.Denotes t) {vs ws : List Json}
    (related : List.Forall₂ Equal vs ws) :
    Equal (.arr (vs.map (inner t))) (.arr (ws.map (inner t))) := by
  rw [Json.Equal.arr_iff, List.forall₂_map_left_iff, List.forall₂_map_right_iff]
  exact related.imp (respects t denoted)

theorem Respects.equal_field (f : Field) {v w : Json} (equal : Equal v w) :
    Equal (expandField s inner d f v) (expandField s inner d f w) := by
  cases type : s.fieldType? d.name f with
  | none =>
    have kept : ∀ v, expandField s inner d f v = v := fun v => by
      simp [expandField, type]
    rwa [kept, kept]
  | some t =>
    have denoted : s.Denotes t := Or.inr ⟨d.name, f, type⟩
    have whole : f.isRepeated = false ∨ v.arr? = none ∧ w.arr? = none →
        Equal (expandField s inner d f v) (expandField s inner d f w) := by
      intro single
      rw [expandField_whole type (single.imp_right And.left),
        expandField_whole type (single.imp_right And.right)]
      exact respects t denoted v w equal
    cases repeated : f.isRepeated with
    | false => exact whole (Or.inl repeated)
    | true =>
      rcases equal.cases with ⟨rfl, array, -⟩ | ⟨x, y, rfl, rfl, -⟩ | ⟨vs, ws, rfl, rfl, related⟩ |
        ⟨ms, ns, rfl, rfl, -⟩
      · exact whole (Or.inr ⟨array, array⟩)
      · exact whole (Or.inr ⟨rfl, rfl⟩)
      · rw [expandField_each type repeated, expandField_each type repeated]
        exact respects.equal_map denoted related
      · exact whole (Or.inr ⟨rfl, rfl⟩)

theorem Respects.equal_member {p q : String × Json} (equal : EqualMember p q) :
    EqualMember (expandMember d (expandField s inner d) p)
      (expandMember d (expandField s inner d) q) := by
  obtain ⟨key, v⟩ := p
  obtain ⟨key', w⟩ := q
  obtain ⟨rfl, equal⟩ : key = key' ∧ Equal v w := equal
  cases found : d.fieldOfKey? key with
  | none => simpa [EqualMember, expandMember, found] using equal
  | some f => simpa [EqualMember, expandMember, found] using respects.equal_field f equal

theorem Respects.equal_members (formed : d.WellFormed) {ms ns : Dict Json} (distinct : ms.keys.Nodup)
    (apart : d.KeysApart ms.keys)
    (related : Multiset.Rel EqualMember (ms : Multiset (String × Json)) ns) :
    Equal (.obj (ms.map (expandMember d (expandField s inner d))))
      (.obj (ns.map (expandMember d (expandField s inner d)))) := by
  rw [Json.Equal.obj_iff]
  refine ⟨nodup_keys_map formed distinct apart, ?_⟩
  rw [← Multiset.map_coe, ← Multiset.map_coe, Multiset.rel_map]
  exact related.mono fun _ _ _ _ => respects.equal_member

theorem Respects.equal_object (formed : d.WellFormed) {ms ns : Dict Json}
    (equal : Equal (.obj ms) (.obj ns)) :
    Equal (expandObject s inner d ms) (expandObject s inner d ns) := by
  obtain ⟨names, related⟩ := Json.Equal.obj_iff.mp equal
  have keys := Dict.perm_keys related fun _ _ same => same.1
  have apart : d.KeysApart ms.keys ↔ d.KeysApart ns.keys :=
    keys.pairwise_iff fun apart f own theirs => apart f theirs own
  have repeats : repeatsField d ms = repeatsField d ns := by
    rw [← Bool.not_inj_iff, Bool.eq_iff_iff, Bool.not_eq_true', Bool.not_eq_true',
      formed.repeatsField_eq_false_iff, formed.repeatsField_eq_false_iff, apart]
  unfold expandObject
  cases twice : repeatsField d ns with
  | true => simpa [repeats, twice] using equal
  | false =>
    rw [twice] at repeats
    simpa [repeats] using
      respects.equal_members formed names (formed.repeatsField_eq_false_iff.mp repeats) related

theorem Respects.equal_entries {t : TypeDefinition} (denoted : s.Denotes t) {ms ns : Dict Json}
    (equal : Equal (.obj ms) (.obj ns)) :
    Equal (.obj (ms.map fun p => (p.1, inner t p.2)))
      (.obj (ns.map fun q => (q.1, inner t q.2))) := by
  obtain ⟨names, related⟩ := Json.Equal.obj_iff.mp equal
  rw [Json.Equal.obj_iff]
  constructor
  · simpa [Dict.keys, Function.comp_def] using names
  · rw [← Multiset.map_coe, ← Multiset.map_coe, Multiset.rel_map]
    exact related.mono fun p _ q _ same => ⟨same.1, respects t denoted _ _ same.2⟩

theorem Respects.equal_places {fields : List Field} {vs ws : List Json}
    (related : List.Forall₂ Equal vs ws) :
    List.Forall₂ Equal (expandPlaces (expandField s inner d) fields vs)
      (expandPlaces (expandField s inner d) fields ws) := by
  induction related generalizing fields with
  | nil => simp [expandPlaces]
  | @cons v w vs ws head tail ih =>
    cases fields with
    | nil => simpa [expandPlaces] using ⟨head, tail⟩
    | cons f fields =>
      simp only [expandPlaces, head.isNull]
      refine .cons ?_ ih
      split
      · exact head
      · exact respects.equal_field f head

theorem Respects.elements (kind : d.kind = .arrayOf) :
    ∃ g : Json → Json, (∀ v, v.Distinct → (g v).Distinct) ∧
      ∀ vs, expandLevel s inner d (.arr vs) = .arr (vs.map g) := by
  cases vtype : elementType? s d with
  | none => exact ⟨id, fun _ => id, fun vs => by simp [expandLevel, kind, vtype]⟩
  | some t =>
    refine ⟨inner t, fun v hv => ?_, fun vs => by simp [expandLevel, kind, vtype]⟩
    exact (respects t (Schema.denotes_of_bind vtype) v v (.refl hv)).distinct

/-- One level more makes equal values of equal ones. -/
theorem Respects.equal_level (formed : d.WellFormed) {v w : Json} (equal : Equal v w) :
    Equal (expandLevel s inner d v) (expandLevel s inner d w) := by
  have object : ∀ {ms ns}, Equal (.obj ms) (.obj ns) →
      d.baseType = .choice ∨ d.baseType = .map ∨ d.baseType = .record →
        Equal (expandLevel s inner d (.obj ms))
          (expandLevel s inner d (.obj ns)) := by
    intro ms ns equal fields
    rw [Validation.expandLevel_of_members fields, Validation.expandLevel_of_members fields]
    exact respects.equal_object formed equal
  rcases equal.cases with ⟨rfl, array, object⟩ | ⟨x, y, rfl, rfl, -⟩ |
    ⟨vs, ws, rfl, rfl, related⟩ | ⟨ms, ns, rfl, rfl, -⟩
  · exact .refl (distinct_expandLevel array object equal.distinct)
  · have kept : ∀ x, expandLevel s inner d (.real x) = .real x := by
      intro x
      unfold expandLevel
      cases d.kind <;> rfl
    rwa [kept, kept]
  · cases kind : d.kind with
    | array fields =>
      simp only [expandLevel, kind]
      exact Json.Equal.arr_iff.mpr (respects.equal_places related)
    | arrayOf =>
      cases vtype : elementType? s d with
      | none => simpa [expandLevel, kind, vtype] using equal
      | some t =>
        simp only [expandLevel, kind, vtype]
        exact respects.equal_map (Schema.denotes_of_bind vtype) related
    | record fields =>
      have own : d.fields = fields := congrArg Kind.fields kind
      have length := related.length_eq
      cases mode : d.options.byId with
      | true => simpa [expandLevel, kind, mode] using equal
      | false =>
        by_cases beyond : fields.length < vs.length
        · simpa [expandLevel, kind, mode, ← length, beyond] using equal
        · have parts := respects.equal_members formed (nodup_keys_keyed formed vs)
            (Validation.keysApart_keyed formed vs)
            (Validation.rel_keyed related d.fields d.options.byId)
          rw [← expandValues_eq_keyed formed mode, ← expandValues_eq_keyed formed mode, own] at parts
          simpa [expandLevel, kind, mode, ← length, beyond] using parts
    | _ => simpa [expandLevel, kind] using equal
  · cases kind : d.kind with
    | choice => exact object equal (Or.inl (congrArg Kind.baseType kind))
    | map => exact object equal (Or.inr (Or.inl (congrArg Kind.baseType kind)))
    | record => exact object equal (Or.inr (Or.inr (congrArg Kind.baseType kind)))
    | mapOf =>
      cases vtype : elementType? s d with
      | none => simpa [expandLevel, kind, vtype] using equal
      | some t =>
        simp only [expandLevel, kind, vtype]
        exact respects.equal_entries (Schema.denotes_of_bind vtype) equal
    | _ => simpa [expandLevel, kind] using equal

end Level

theorem respects_expandLevels (built : s.Built) (levels : Nat) :
    Respects s (expandLevels s levels) := by
  induction levels with
  | zero => exact fun _ _ _ _ equal => equal
  | succ levels ih =>
    exact fun t denoted v w equal => ih.equal_level (built.wellFormed_of_denotes denoted) equal

end Expansion

namespace Validation

section Permuted

variable {vs ws : List Json} (permuted : vs.Perm ws) (distinct : ∀ v ∈ vs, v.Distinct)
include permuted distinct

/-- Whether two elements of a list are equal does not depend on their order. -/
theorem repeated?_of_perm : repeated? [] vs = none ↔ repeated? [] ws = none := by
  have unequal : ∀ {xs : List Json}, (∀ x ∈ xs, x.Distinct) →
      (repeated? [] xs = none ↔ xs.Pairwise fun v w => ¬ Equal v w) := by
    intro xs each
    simp only [repeated?_eq_none_iff, List.not_mem_nil, IsEmpty.forall_iff, implies_true, true_and]
    refine List.Pairwise.iff_of_mem fun {v w} hv hw => not_congr ⟨fun same => ?_, fun equal => ?_⟩
    · exact (Equal.mk (each w hw) (each v hv) same).symm
    · exact equal.symm.same
  rw [unequal distinct, unequal fun w hw => distinct w (permuted.mem_iff.mpr hw)]
  exact permuted.pairwise_iff fun apart equal => apart equal.symm

theorem AdmitsElements.of_perm {s : Schema} {check : Json → Outcome} {d : TypeDefinition}
    (admits : AdmitsElements s check d vs) : AdmitsElements s check d ws := by
  have length := permuted.length_eq
  exact {
    limited := length ▸ admits.limited
    checked := fun w hw => admits.checked w (permuted.mem_iff.mpr hw)
    distinct := fun unique => (repeated?_of_perm permuted distinct).mp (admits.distinct unique)
    atLeast := length ▸ admits.atLeast
    atMost := length ▸ admits.atMost }

theorem checkArrayOf_of_perm {s : Schema} {inner : Checker} {d : TypeDefinition}
    (accepted : checkArrayOf s inner d (.arr vs) = .ok ()) :
    checkArrayOf s inner d (.arr ws) = .ok () := by
  obtain ⟨t, type, _, same, admits⟩ := checkArrayOf_eq_ok_iff.mp accepted
  cases same
  exact checkArrayOf_eq_ok_iff.mpr ⟨t, type, ws, rfl, admits.of_perm permuted distinct⟩

end Permuted

end Validation

namespace Schema

variable {s : Schema}

theorem isValid_iff {name : String} {d : TypeDefinition} (found : s.lookup? name = some d)
    {v : Json} : s.isValid name v = true ↔ s.check d (d.expand s v) 0 = .ok () := by
  rw [isValid, validate, found]
  exact isOk_under_iff

variable (built : s.Built)
include built

/-- What is accepted depends on the verbose form only up to equality. -/
theorem Built.isValid_eq_of_expand {name : String} {d : TypeDefinition}
    (found : s.lookup? name = some d) {v w : Json} (equal : Equal (d.expand s v) (d.expand s w)) :
    s.isValid name v = s.isValid name w := by
  have insensitive : Validation.Insensitive fun u => s.check d u 0 :=
    Validation.checkLevels_insensitive built _ (Or.inl ⟨name, found⟩)
  rw [Bool.eq_iff_iff, isValid_iff found, isValid_iff found]
  exact ⟨insensitive _ _ equal, insensitive _ _ equal.symm⟩

theorem Built.isValid_of_perm {name : String} {d : TypeDefinition}
    (found : s.lookup? name = some d) (kind : d.kind = .arrayOf) {vs ws : List Json}
    (permuted : vs.Perm ws) (distinct : ∀ v ∈ vs, v.Distinct)
    (accepted : s.isValid name (.arr vs) = true) : s.isValid name (.arr ws) = true := by
  obtain ⟨g, kept, form⟩ :=
    (Expansion.respects_expandLevels built s.limits.maxDepth).elements kind
  have expanded : ∀ us, d.expand s (.arr us) = .arr (us.map g) := form
  have checked : ∀ us, s.isValid name (.arr us) = true ↔ Validation.checkArrayOf s
      (Validation.checkLevels s s.limits.maxDepth) d (.arr (us.map g)) = .ok () := by
    intro us
    rw [isValid_iff found, expanded]
    show Validation.checkLevel s (Validation.checkLevels s s.limits.maxDepth) d _ = _ ↔ _
    simp only [Validation.checkLevel, kind]
  rw [checked] at accepted ⊢
  refine Validation.checkArrayOf_of_perm (permuted.map g) ?_ accepted
  intro u hu
  obtain ⟨v, hv, rfl⟩ := List.mem_map.mp hu
  exact kept v (distinct v hv)

/-- Equal instances have equal verbose forms and the same verdict, and so have lists whose elements
stand in another order, whether these have to be distinct or not. -/
theorem Built.isValid_reordered :
    (∀ name v w, Equal v w → s.isValid name v = s.isValid name w ∧
      ((s.lookup? name).isSome →
        ∃ a b, s.expand name v = .ok a ∧ s.expand name w = .ok b ∧ Equal a b)) ∧
    ∀ name d, s.lookup? name = some d → d.baseType = .arrayOf →
      ∀ vs ws : List Json, vs.Perm ws → (Json.arr vs).Distinct →
        s.isValid name (.arr vs) = s.isValid name (.arr ws) := by
  constructor
  · intro name v w equal
    cases found : s.lookup? name with
    | none =>
      refine ⟨?_, by simp⟩
      rw [isValid, isValid, validate, validate, found]
    | some d =>
      have forms : Equal (d.expand s v) (d.expand s w) :=
        Expansion.respects_expandLevels built _ d (Or.inl ⟨name, found⟩) v w equal
      refine ⟨built.isValid_eq_of_expand found forms, fun _ => ?_⟩
      refine ⟨d.expand s v, d.expand s w, ?_, ?_, forms⟩
      · simp only [expand, found]
      · simp only [expand, found]
  · intro name d found base vs ws permuted distinct
    have kind : d.kind = .arrayOf := by
      cases own : d.kind <;> simp_all [TypeDefinition.baseType, Kind.baseType]
    have each := fun v => distinct.of_mem_arr (v := v)
    have each' : ∀ w ∈ ws, w.Distinct := fun w hw => each w (permuted.mem_iff.mpr hw)
    rw [Bool.eq_iff_iff]
    exact ⟨built.isValid_of_perm found kind permuted each,
      built.isValid_of_perm found kind permuted.symm each'⟩

omit built

def day : TypeDefinition where
  name := "Day"
  options := {}
  description := ""
  kind := .record [.new 1 "name" "String", .new 2 "hours" "Integer"]

def week : TypeDefinition where
  name := "Week"
  options := { vtype := some "Day", unorderedUnique := true }
  description := ""
  kind := .arrayOf

def weeks : Schema where
  info := {}
  types := [day, week]
  limits := {}
  extensions := []
  fieldTypes := []
  patterns := []

theorem weeks_built : weeks.Built := ⟨by decide, .entered, rfl⟩

def monday : Json := .obj [("name", .str "Mon"), ("hours", .int 4)]

def tuesday : Json := .obj [("hours", .int 6), ("name", .str "Tue")]

theorem distinct_monday : monday.Distinct :=
  .obj (by decide) (by simp [Json.Distinct.str, Json.Distinct.int])

theorem distinct_tuesday : tuesday.Distinct :=
  .obj (by decide) (by simp [Json.Distinct.str, Json.Distinct.int])

/-- The members of a day and the days of a week in another order. -/
theorem isValid_reordered_week :
    weeks.Built ∧
      (∃ w, Equal tuesday w ∧ w = .obj [("name", .str "Tue"), ("hours", .int 6)] ∧
        weeks.isValid "Day" tuesday = weeks.isValid "Day" w ∧
        ∃ a b, weeks.expand "Day" tuesday = .ok a ∧ weeks.expand "Day" w = .ok b ∧ Equal a b) ∧
      weeks.isValid "Week" (.arr [monday, tuesday]) = true ∧
      weeks.isValid "Week" (.arr [tuesday, monday]) = true := by
  have ordered : Equal tuesday (.obj [("name", .str "Tue"), ("hours", .int 6)]) :=
    ⟨distinct_tuesday, .obj (by decide) (by simp [Json.Distinct.str, Json.Distinct.int]), rfl⟩
  obtain ⟨equal, permuted⟩ := weeks_built.isValid_reordered
  obtain ⟨verdict, forms⟩ := equal "Day" _ _ ordered
  have both : (Json.arr [monday, tuesday]).Distinct :=
    .arr (by simp [distinct_monday, distinct_tuesday])
  have accepted : weeks.isValid "Week" (.arr [monday, tuesday]) = true := rfl
  have swapped := permuted "Week" week rfl rfl [monday, tuesday] [tuesday, monday]
    (List.Perm.swap _ _ _) both
  exact ⟨weeks_built, ⟨_, ordered, rfl, verdict, forms rfl⟩, accepted, swapped ▸ accepted⟩

end Schema

end Jadn
