import Jadn.Proofs.Expansion.Idempotence
import Jadn.Proofs.Numeral

/-!
Which objects a map or a record accepts.

Keys, required fields and the values of fields are checked by loops of their own. The first
asks which field a key denotes; the others look for the member under the key that is printed
for a field. `Admits` says what is asked of an object, given which keys speak for which field:
the code answers for printed keys. These are all the keys that denote a field if members are
spelled as keys are printed, and where fields go by name every verbose form is spelled so.
-/

set_option autoImplicit false

namespace Jadn.TypeDefinition

open Validation (verboseKey)

/-- No two of the keys denote one field. -/
def KeysApart (d : TypeDefinition) (keys : List String) : Prop :=
  keys.Pairwise fun key other => ∀ f, d.fieldOfKey? key = some f → d.fieldOfKey? other ≠ some f

def Denotes (d : TypeDefinition) (key : String) (f : Field) : Prop := d.fieldOfKey? key = some f

def Prints (d : TypeDefinition) (key : String) (f : Field) : Prop :=
  f ∈ d.fields ∧ key = verboseKey f d.options.byId

/-- Members with a value are spelled as the keys of their fields are printed. -/
def PrintsKeys (d : TypeDefinition) (members : Dict Json) : Prop :=
  ∀ key v f, (key, v) ∈ members → v.isNull = false → d.Denotes key f → d.Prints key f

theorem WellFormed.denotes_of_prints {d : TypeDefinition} (formed : d.WellFormed) {key : String}
    {f : Field} (printed : d.Prints key f) : d.Denotes key f := by
  obtain ⟨hf, rfl⟩ := printed
  unfold Denotes
  cases mode : d.options.byId with
  | true =>
    rw [fieldOfKey?_of_byId mode, verboseKey, if_pos rfl, Numeral.int64?_toString]
    exact formed.fieldWithId? hf
  | false =>
    have named := formed.fieldNamed? hf
    simp [fieldOfKey?_of_byName mode, verboseKey, named]

/-- Expansion keeps an object as it is exactly if two of its keys denote one field. -/
theorem WellFormed.repeatsField_eq_false_iff {d : TypeDefinition} (formed : d.WellFormed)
    {members : Dict Json} :
    Expansion.repeatsField d members = false ↔ d.KeysApart members.keys := by
  rw [Expansion.repeatsField, Bool.not_eq_false', decide_eq_true_iff, List.Nodup,
    List.pairwise_filterMap, KeysApart, Dict.keys, List.pairwise_map]
  refine List.Pairwise.iff fun p q => ?_
  simp only [Option.map_eq_some_iff]
  constructor
  · intro distinct f denoted denoted'
    exact distinct f.id ⟨f, denoted, rfl⟩ f.id ⟨f, denoted', rfl⟩ rfl
  · rintro distinct _ ⟨f, denoted, rfl⟩ _ ⟨g, denoted', rfl⟩ same
    have : f = g := formed.eq_of_id_eq (mem_fields_of_fieldOfKey? denoted)
      (mem_fields_of_fieldOfKey? denoted') same
    exact distinct f denoted (this ▸ denoted')

theorem WellFormed.printsKeys_of_expanded {s : Schema} {inner : Expansion.Expander}
    {d : TypeDefinition} (formed : d.WellFormed) (mode : d.options.byId = false)
    {members : Dict Json} (apart : d.KeysApart members.keys)
    (verbose : Expansion.expandObject s inner d members = .obj members) : d.PrintsKeys members := by
  have single := formed.repeatsField_eq_false_iff.mpr apart
  simp only [Expansion.expandObject, single, Bool.false_eq_true, if_false, Json.obj.injEq]
    at verbose
  intro key v f member _ denoted
  have kept : Expansion.expandMember d (Expansion.expandField s inner d) (key, v) = (key, v) :=
    List.map_eq_map_iff.mp (verbose.trans (List.map_id members).symm) (key, v) member
  simp only [Expansion.expandMember, show d.fieldOfKey? key = some f from denoted, mode,
    Bool.false_eq_true, if_false, Prod.mk.injEq] at kept
  exact ⟨mem_fields_of_fieldOfKey? denoted, by simp [verboseKey, mode, kept.1]⟩

end Jadn.TypeDefinition

namespace Jadn.Validation

/-- What a map or a record asks of an object, given how the value of a field is checked and
which keys speak for which field. -/
structure Admits (s : Schema) (check : Field → Json → Outcome) (d : TypeDefinition)
    (speaks : String → Field → Prop) (members : Dict Json) : Prop where
  apart : d.KeysApart members.keys
  declared : ∀ key ∈ members.keys, d.options.extensible = true ∨ (d.fieldOfKey? key).isSome
  given : ∀ f ∈ d.fields, f.isRequired = true →
    ∃ key v, (key, v) ∈ members ∧ v.isNull = false ∧ speaks key f
  checked : ∀ key v f, (key, v) ∈ members → v.isNull = false → speaks key f →
    check f v = .ok ()
  atLeast : natural d.options.minv ≤ members.length
  atMost : members.length ≤ (positive? d.options.maxv).getD s.config.elementLimit
  limited : members.length ≤ s.limits.maxCollectionSize

section Checks

variable {s : Schema} {d : TypeDefinition}

theorem under_eq_ok_iff {segment : String} {outcome : Outcome} :
    under segment outcome = .ok () ↔ outcome = .ok () :=
  Except.mapError_eq_ok_iff

theorem checkBounds_eq_ok_iff {count least most : Nat} :
    checkBounds d count least most = .ok () ↔ least ≤ count ∧ count ≤ most := by
  unfold checkBounds
  split
  · simp; omega
  · split <;> simp <;> omega

theorem checkCollection_eq_ok_iff {count : Nat} :
    checkCollection s d count = .ok () ↔ count ≤ s.limits.maxCollectionSize := by
  have limit : s.limits.check .collectionSize count = .ok () ↔ count ≤ s.limits.maxCollectionSize :=
    Limits.check_eq_ok_iff s.limits .collectionSize count
  unfold checkCollection
  split
  · next h => simpa [h] using limit
  · next h => simpa [h] using limit

/-- `given` holds the ids that the keys before denote. -/
theorem checkKeys_eq_ok_iff (formed : d.WellFormed) {given : List Int64} {keys : List String} :
    checkKeys d given keys = .ok () ↔
      d.KeysApart keys ∧ (∀ key ∈ keys, d.options.extensible = true ∨ (d.fieldOfKey? key).isSome) ∧
        ∀ key ∈ keys, ∀ f, d.fieldOfKey? key = some f → f.id ∉ given := by
  induction keys generalizing given with
  | nil => simp [checkKeys, TypeDefinition.KeysApart]
  | cons key keys ih =>
    rw [checkKeys]
    cases denoted : d.fieldOfKey? key with
    | none =>
      cases mode : d.options.extensible with
      | true => simp [ih, TypeDefinition.KeysApart, denoted, mode]
      | false => simp [denoted]
    | some f =>
      by_cases before : f.id ∈ given
      · simp [before, denoted]
      · have fresh : ∀ other, (∀ g, d.fieldOfKey? other = some g → g.id ≠ f.id) ↔
            d.fieldOfKey? other ≠ some f := by
          intro other
          constructor
          · exact fun h same => h f same rfl
          · intro h g found same
            have := formed.eq_of_id_eq (TypeDefinition.mem_fields_of_fieldOfKey? found)
              (TypeDefinition.mem_fields_of_fieldOfKey? denoted) same
            exact h (this ▸ found)
        simp only [before, if_false, ih, TypeDefinition.KeysApart, List.pairwise_cons,
          List.mem_cons, forall_eq_or_imp, denoted, Option.some.injEq]
        grind

end Checks

section Objects

variable {s : Schema} {inner : Checker} {d : TypeDefinition} {members : Dict Json}

theorem present?_lookup_eq_some_iff (formed : d.WellFormed) (apart : d.KeysApart members.keys)
    {f : Field} (hf : f ∈ d.fields) {v : Json} :
    present? (members.lookup (verboseKey f d.options.byId)) = some v ↔
      ∃ key, (key, v) ∈ members ∧ v.isNull = false ∧ d.Prints key f := by
  rw [present?, Option.filter_eq_some_iff]
  constructor
  · rintro ⟨found, some⟩
    exact ⟨_, mem_of_lookup found, by simpa using some, hf, rfl⟩
  · rintro ⟨key, member, some, -, rfl⟩
    refine ⟨?_, by simpa using some⟩
    have denoted := formed.denotes_of_prints ⟨hf, rfl⟩
    obtain ⟨before, after, rfl⟩ := List.append_of_mem member
    refine List.lookup_eq_some_iff.mpr ⟨before, after, rfl, ?_⟩
    intro other hother
    have distinct := (List.pairwise_append.mp (List.pairwise_map.mp apart)).2.2 other hother _
      List.mem_cons_self
    have : verboseKey f d.options.byId ≠ other.1 := by
      intro same
      exact distinct f (same ▸ denoted) denoted
    simpa using this

/-- On objects the loops together ask what is asked of printed keys. -/
theorem checkMap_obj_eq_ok_iff (formed : d.WellFormed) :
    checkMap s inner d (.obj members) = .ok () ↔
      Admits s (checkField s inner d) d d.Prints members := by
  have read : Validation.members d (.obj members) = .ok members := by
    unfold Validation.members
    split <;> simp_all
  simp only [checkMap, read, Except.bind_eq_ok_iff, Except.ok.injEq]
  constructor
  · rintro ⟨_, rfl, ⟨⟩, count, ⟨⟩, keys, ⟨⟩, given, ⟨⟩, checked, size⟩
    obtain ⟨apart, declared, -⟩ := (checkKeys_eq_ok_iff formed).mp keys
    obtain ⟨atLeast, atMost⟩ := checkBounds_eq_ok_iff.mp size
    refine ⟨apart, declared, ?_, ?_, atLeast, atMost, checkCollection_eq_ok_iff.mp count⟩
    · intro f hf required
      have held := Except.forM_eq_ok_iff.mp given f hf
      cases found : present? (members.lookup (verboseKey f d.options.byId)) with
      | none => simp [required, found] at held
      | some v =>
        obtain ⟨key, member⟩ := (present?_lookup_eq_some_iff formed apart hf).mp found
        exact ⟨key, v, member⟩
    · intro key v f member some printed
      have found := (present?_lookup_eq_some_iff formed apart printed.1).mpr
        ⟨key, member, some, printed⟩
      have held := Except.forM_eq_ok_iff.mp checked f printed.1
      rw [found] at held
      exact under_eq_ok_iff.mp held
  · intro admits
    have lookup := fun {f} hf {v} =>
      present?_lookup_eq_some_iff formed admits.apart (f := f) hf (v := v)
    refine ⟨members, rfl, (), checkCollection_eq_ok_iff.mpr admits.limited, (), ?_, (), ?_,
      (), ?_, checkBounds_eq_ok_iff.mpr ⟨admits.atLeast, admits.atMost⟩⟩
    · exact (checkKeys_eq_ok_iff formed).mpr ⟨admits.apart, admits.declared, by simp⟩
    · refine Except.forM_eq_ok_iff.mpr fun f hf => ?_
      cases required : f.isRequired with
      | false => simp
      | true =>
        obtain ⟨key, v, member⟩ := admits.given f hf required
        simp [(lookup hf).mpr ⟨key, member⟩]
    · refine Except.forM_eq_ok_iff.mpr fun f hf => ?_
      split
      · next v found =>
        obtain ⟨key, member, some, printed⟩ := (lookup hf).mp found
        exact under_eq_ok_iff.mpr (admits.checked key v f member some printed)
      · rfl

/-- Objects spelled as keys are printed have no key that denotes a field without speaking
for it. -/
theorem admits_prints_iff (formed : d.WellFormed)
    (spelled : d.KeysApart members.keys → d.PrintsKeys members) {check : Field → Json → Outcome} :
    Admits s check d d.Prints members ↔ Admits s check d d.Denotes members := by
  constructor
  · intro admits
    refine { admits with given := ?_, checked := ?_ }
    · intro f hf required
      obtain ⟨key, v, member, some, printed⟩ := admits.given f hf required
      exact ⟨key, v, member, some, formed.denotes_of_prints printed⟩
    · intro key v f member some denoted
      exact admits.checked key v f member some
        (spelled admits.apart key v f member some denoted)
  · intro admits
    refine { admits with given := ?_, checked := ?_ }
    · intro f hf required
      obtain ⟨key, v, member, some, denoted⟩ := admits.given f hf required
      exact ⟨key, v, member, some, spelled admits.apart key v f member some denoted⟩
    · intro key v f member some printed
      exact admits.checked key v f member some (formed.denotes_of_prints printed)

theorem checkLevel_of_members (structured : d.baseType = .map ∨ d.baseType = .record) (v : Json) :
    checkLevel s inner d v = checkMap s inner d v := by
  unfold checkLevel
  cases kind : d.kind <;> simp_all [TypeDefinition.baseType, Kind.baseType]

theorem expandLevel_of_members {inner : Expansion.Expander}
    (keyed : d.baseType = .choice ∨ d.baseType = .map ∨ d.baseType = .record)
    (members : Dict Json) :
    Expansion.expandLevel s inner d (.obj members) = Expansion.expandObject s inner d members := by
  unfold Expansion.expandLevel
  cases kind : d.kind <;> simp_all [TypeDefinition.baseType, Kind.baseType, Expansion.expandObject]

end Objects

end Jadn.Validation

namespace Jadn.Schema

open Validation

/-- A map or a record accepts an object exactly if no two keys denote one field, every key
denotes a field unless others are allowed, required fields have values, all values of fields
are accepted and the number of members is within bounds.

Where fields go by id, or nothing was expanded, a member has to be spelled as its key is
printed. -/
theorem Built.check_object_iff {s : Schema} (built : s.Built) {d : TypeDefinition}
    (denoted : s.Denotes d) (structured : d.baseType = .map ∨ d.baseType = .record) {depth : Nat}
    (within : depth ≤ s.limits.maxDepth) {members : Dict Json}
    (spelled : d.PrintsKeys members ∨ d.options.byId = false ∧
      ∃ levels v, Expansion.expandLevels s (levels + 1) d v = .obj members) :
    s.check d (.obj members) depth = .ok () ↔
      Admits s (checkField s (fun e v => s.check e v (depth + 1)) d) d d.Denotes members := by
  have formed := built.wellFormed_of_denotes denoted
  have inner : checkLevels s (s.limits.maxDepth - depth) = fun e v => s.check e v (depth + 1) := by
    funext e v
    rw [check, Nat.add_sub_add_right]
  rw [check, Nat.succ_sub within, checkLevels, inner, checkLevel_of_members structured,
    checkMap_obj_eq_ok_iff formed]
  apply admits_prints_iff formed
  intro apart
  rcases spelled with spelled | ⟨mode, levels, v, verbose⟩
  · exact spelled
  · have fixed : Expansion.expandLevels s (levels + 1) d (.obj members) = .obj members := by
      rw [← verbose]
      exact (Expansion.settled_expandLevels built _).idempotent d denoted v
    rw [Expansion.expandLevels, expandLevel_of_members (Or.inr structured)] at fixed
    exact formed.printsKeys_of_expanded mode apart fixed

def tally : TypeDefinition where
  name := "Tally"
  options := { byId := true }
  description := ""
  kind := .map [{ id := 1, name := "count", typeRef := "Integer",
                  options := { minc := some 0 }, description := "" }]

def tallies : Schema where
  info := {}
  types := [tally]
  limits := {}
  extensions := []
  fieldTypes := []
  patterns := []

theorem tallies_built : tallies.Built := ⟨by decide, .entered, rfl⟩

theorem check_tally :
    tally.PrintsKeys [("1", .int 5)] ∧ tallies.check tally (.obj [("1", .int 5)]) 0 = .ok () ∧
      Admits tallies (checkField tallies (fun e v => tallies.check e v 1) tally) tally
        tally.Denotes [("1", .int 5)] := by
  have spelled : tally.PrintsKeys [("1", .int 5)] := by
    intro key v f member _ denoted
    obtain ⟨rfl, -⟩ : key = "1" ∧ v = .int 5 := by simpa using member
    have : f = tally.fields.head! := Option.some.inj (denoted.symm.trans rfl)
    subst this
    exact ⟨by simp [tally, TypeDefinition.fields, Kind.fields], rfl⟩
  have accepted : tallies.check tally (.obj [("1", .int 5)]) 0 = .ok () := rfl
  refine ⟨spelled, accepted, ?_⟩
  exact (tallies_built.check_object_iff (Or.inl ⟨"Tally", rfl⟩) (Or.inl rfl) (Nat.zero_le _)
    (Or.inl spelled)).mp accepted

/-- The key denotes the field, but it is not the one under which its value is looked up. -/
example : (tally.fieldOfKey? "+1").isSome ∧
    tallies.check tally (.obj [("+1", .str "five")]) 0 = .ok () := ⟨rfl, rfl⟩

end Jadn.Schema
