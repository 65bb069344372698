import Jadn.Proofs.Outcome
import Jadn.TypeDefinition

/-!
Definitions whose members have distinct ids and distinct names.

Reading, creating and deriving a definition gives only such ones, and look-ups of members
find the member that was asked for.
-/

set_option autoImplicit false

namespace Jadn

theorem find?_key_eq_some {α κ : Type} [BEq κ] [LawfulBEq κ] {key : α → κ} {xs : List α} {x : α}
    (distinct : (xs.map key).Nodup) (hx : x ∈ xs) :
    xs.find? (fun y => key y == key x) = some x := by
  induction xs with
  | nil => simp at hx
  | cons y ys ih =>
    rw [List.map_cons, List.nodup_cons] at distinct
    by_cases same : key y = key x
    · have : x = y := by
        rcases List.mem_cons.mp hx with rfl | later
        · rfl
        · exact absurd (same ▸ List.mem_map_of_mem later) distinct.1
      simp [this]
    · have later : x ∈ ys := by
        rcases List.mem_cons.mp hx with rfl | later
        · exact absurd rfl same
        · exact later
      rw [List.find?_cons_of_neg (by simpa using same)]
      exact ih distinct.2 later

namespace TypeDefinition

/-- The items or fields have distinct ids and distinct names. -/
structure WellFormed (d : TypeDefinition) : Prop where
  ids : (d.memberKeys.map Prod.fst).Nodup
  names : (d.memberKeys.map Prod.snd).Nodup

instance (d : TypeDefinition) : Decidable d.WellFormed :=
  decidable_of_iff ((d.memberKeys.map Prod.fst).Nodup ∧ (d.memberKeys.map Prod.snd).Nodup)
    ⟨fun h => ⟨h.1, h.2⟩, fun h => ⟨h.ids, h.names⟩⟩

theorem duplicate?_eq_none_iff {ids : List Int64} {names : List String}
    {keys : List (Int64 × String)} :
    duplicate? ids names keys = none ↔
      (keys.map Prod.fst).Nodup ∧ (keys.map Prod.snd).Nodup ∧
        ∀ k ∈ keys, k.1 ∉ ids ∧ k.2 ∉ names := by
  induction keys generalizing ids names with
  | nil => simp [duplicate?]
  | cons k keys ih =>
    obtain ⟨id, name⟩ := k
    rw [duplicate?]
    by_cases hid : id ∈ ids
    · simp [hid]
    · by_cases hname : name ∈ names
      · simp [hid, hname]
      · simp only [hid, hname, if_false, ih, List.map_cons, List.nodup_cons, List.mem_cons]
        grind

theorem create_eq_ok_iff {name : String} {kind : Kind} {options : Options} {description : String}
    {d : TypeDefinition} :
    create name kind options description = .ok d ↔
      d = ⟨name, options, description, kind⟩ ∧ d.WellFormed := by
  have checked : ∀ e : TypeDefinition, duplicate? [] [] e.memberKeys = none ↔ e.WellFormed := by
    intro e
    rw [duplicate?_eq_none_iff]
    exact ⟨fun h => ⟨h.1, h.2.1⟩, fun h => ⟨h.ids, h.names, by simp⟩⟩
  simp only [create]
  split
  · next fault found =>
    constructor
    · intro h
      cases h
    · rintro ⟨rfl, formed⟩
      rw [(checked _).mpr formed] at found
      cases found
  · next found =>
    rw [Except.ok.injEq]
    constructor
    · rintro rfl
      exact ⟨rfl, (checked _).mp found⟩
    · exact fun h => h.1.symm

theorem plain_wellFormed (base : BaseType) (name : String) (options : Options) :
    (plain base name options).WellFormed := by
  constructor <;> cases base <;> simp [plain, memberKeys, Kind.ofBaseType, Kind.fields]

/-- Members count for well-formedness, names and options do not. -/
theorem WellFormed.of_memberKeys_eq {d e : TypeDefinition} (h : d.WellFormed)
    (same : e.memberKeys = d.memberKeys) : e.WellFormed :=
  ⟨same ▸ h.ids, same ▸ h.names⟩

theorem WellFormed.refined {d : TypeDefinition} (h : d.WellFormed) (name : String)
    (overlay : Options) : (d.refined name overlay).WellFormed :=
  h.of_memberKeys_eq rfl

theorem isEnumeration_iff {d : TypeDefinition} :
    d.isEnumeration = true ↔ ∃ items, d.kind = .enumerated items := by
  cases kind : d.kind <;> simp [isEnumeration, baseType, kind, Kind.baseType]

/-- The enumeration of a definition is itself, if it is one, or lists what goes by its name. -/
theorem toEnumeration_eq_ok {d e : TypeDefinition} (h : d.toEnumeration = .ok e) :
    (∃ items, e.kind = .enumerated items) ∧
      (e = d ∨ e.name = enumerationName d.name ∧ e.options = { byId := d.options.byId }) := by
  unfold toEnumeration at h
  split at h
  · next items kind =>
    cases h
    exact ⟨⟨items, kind⟩, Or.inl rfl⟩
  all_goals first
    | cases h
    | (obtain ⟨rfl, -⟩ := create_eq_ok_iff.mp (Except.mapError_eq_ok_iff.mp h)
       exact ⟨⟨_, rfl⟩, Or.inr ⟨rfl, rfl⟩⟩)

theorem WellFormed.toEnumeration {d e : TypeDefinition} (h : d.WellFormed)
    (derived : d.toEnumeration = .ok e) : e.WellFormed := by
  unfold TypeDefinition.toEnumeration at derived
  split at derived
  · cases derived
    exact h
  all_goals first
    | exact (create_eq_ok_iff.mp (Except.mapError_eq_ok_iff.mp derived)).2
    | cases derived

theorem WellFormed.toEnumeration_isSome {d : TypeDefinition} (formed : d.WellFormed) :
    d.toEnumeration.toOption.isSome = d.hasFields := by
  have created : ∀ fields : List Field, d.kind.fields = fields →
      (∀ items, d.kind ≠ .enumerated items) → ∀ text,
      (((create (enumerationName d.name)
        (.enumerated (fields.map fun f => ⟨f.id, f.name, f.description⟩))
        { byId := d.options.byId } text).mapError Error.parse).toOption).isSome = true := by
    rintro _ rfl other text
    have keys : ({ name := enumerationName d.name
                   options := { byId := d.options.byId }
                   description := text
                   kind := .enumerated (d.kind.fields.map fun f => ⟨f.id, f.name, f.description⟩) :
                   TypeDefinition }).memberKeys = d.memberKeys := by
      unfold memberKeys
      cases kind : d.kind with
      | enumerated items => exact absurd kind (other items)
      | _ => simp [Function.comp_def]
    rw [create_eq_ok_iff.mpr ⟨rfl, formed.of_memberKeys_eq keys⟩]
    rfl
  unfold TypeDefinition.toEnumeration hasFields baseType
  cases kind : d.kind with
  | enumerated items => rfl
  | choice fs | array fs | map fs | record fs =>
    exact created fs (by rw [kind]; rfl) (by simp [kind]) _
  | _ => rfl

theorem toEnumeration_of_not_hasFields {d : TypeDefinition} (h : d.hasFields = false) :
    d.toEnumeration.toOption = none := by
  unfold hasFields baseType at h
  unfold toEnumeration
  cases kind : d.kind <;> simp_all [Kind.baseType, BaseType.hasFields, Except.toOption]

theorem ofParts_wellFormed {name base options description : Json} {members : Option Json}
    {d : TypeDefinition} (h : ofParts name base options description members = .ok d) :
    d.WellFormed := by
  unfold ofParts at h
  split at h
  · split at h
    · simp only [Except.bind_eq_ok_iff] at h
      obtain ⟨base, -, options, -, h⟩ := h
      split at h
      · split at h
        · split at h
          · cases h
          · rw [Except.bind_eq_ok_iff] at h
            obtain ⟨kind, -, h⟩ := h
            exact (create_eq_ok_iff.mp h).2
        · cases h
      · cases h
    · cases h
  · cases h

theorem ofJson_wellFormed {value : Json} {d : TypeDefinition} (h : ofJson value = .ok d) :
    d.WellFormed := by
  unfold ofJson at h
  split at h
  · exact ofParts_wellFormed h
  · exact ofParts_wellFormed h
  · cases h

section Fields

variable {d : TypeDefinition} (formed : d.WellFormed)
include formed

theorem WellFormed.fieldIds : (d.fields.map Field.id).Nodup := by
  have h := formed.ids
  unfold memberKeys at h
  unfold fields
  cases hk : d.kind <;> simp_all [Kind.fields, Function.comp_def]

theorem WellFormed.fieldNames : (d.fields.map Field.name).Nodup := by
  have h := formed.names
  unfold memberKeys at h
  unfold fields
  cases hk : d.kind <;> simp_all [Kind.fields, Function.comp_def]

theorem WellFormed.fieldNamed? {f : Field} (hf : f ∈ d.fields) :
    d.fieldNamed? f.name = some f :=
  find?_key_eq_some formed.fieldNames hf

theorem WellFormed.fieldWithId? {f : Field} (hf : f ∈ d.fields) :
    d.fieldWithId? f.id = some f :=
  find?_key_eq_some formed.fieldIds hf

theorem WellFormed.fieldNamed?_eq_some_iff {key : String} {f : Field} :
    d.fieldNamed? key = some f ↔ f ∈ d.fields ∧ key = f.name := by
  constructor
  · intro found
    have same : f.name = key := by simpa using List.find?_some found
    exact ⟨List.mem_of_find?_eq_some found, same.symm⟩
  · rintro ⟨hf, rfl⟩
    exact formed.fieldNamed? hf

theorem WellFormed.fieldWithId?_eq_some_iff {id : Int64} {f : Field} :
    d.fieldWithId? id = some f ↔ f ∈ d.fields ∧ id = f.id := by
  constructor
  · intro found
    have same : f.id = id := by simpa using List.find?_some found
    exact ⟨List.mem_of_find?_eq_some found, same.symm⟩
  · rintro ⟨hf, rfl⟩
    exact formed.fieldWithId? hf

theorem WellFormed.eq_of_id_eq {f g : Field} (hf : f ∈ d.fields) (hg : g ∈ d.fields)
    (same : f.id = g.id) : f = g := by
  have found := formed.fieldWithId? hf
  rw [same, formed.fieldWithId? hg] at found
  exact (Option.some.inj found).symm

end Fields

theorem fieldNamed?_eq_none_iff {d : TypeDefinition} {key : String} :
    d.fieldNamed? key = none ↔ ∀ f ∈ d.fields, f.name ≠ key := by
  simp [fieldNamed?]

theorem fieldOfKey?_of_byId {d : TypeDefinition} (h : d.options.byId = true) (key : String) :
    d.fieldOfKey? key = (Numeral.int64? key).bind d.fieldWithId? := by
  simp [fieldOfKey?, h]

theorem fieldOfKey?_of_byName {d : TypeDefinition} (h : d.options.byId = false) (key : String) :
    d.fieldOfKey? key =
      (d.fieldNamed? key).or ((Numeral.int64? key).bind d.fieldWithId?) := by
  simp [fieldOfKey?, h]

theorem mem_fields_of_fieldOfKey? {d : TypeDefinition} {key : String} {f : Field}
    (h : d.fieldOfKey? key = some f) : f ∈ d.fields := by
  have byId : ∀ g, (Numeral.int64? key).bind d.fieldWithId? = some g → g ∈ d.fields := by
    intro g hg
    obtain ⟨id, -, found⟩ := Option.bind_eq_some_iff.mp hg
    exact List.mem_of_find?_eq_some found
  cases mode : d.options.byId with
  | true => exact byId f (fieldOfKey?_of_byId mode key ▸ h)
  | false =>
    rw [fieldOfKey?_of_byName mode, Option.or_eq_some_iff] at h
    rcases h with named | ⟨-, found⟩
    · exact List.mem_of_find?_eq_some named
    · exact byId f found

end TypeDefinition

end Jadn
