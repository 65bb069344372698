import Jadn.Proofs.Codec.Options
import Jadn.Proofs.WellFormed

/-!
Definitions, with their fields and items, read back from what they are written as.

A definition is written without members where its kind has none, or where an enumeration has
none of its own; what is read then has none either. It can be written if its options and those
of its fields can, and if no two members share an id or a name.
-/

set_option autoImplicit false

namespace Jadn

theorem Json.int64?_ofInt64 (n : Int64) : (Json.ofInt64 n).int64? = some n := Numeral.word?_toInt n

theorem Item.ofJson_toJson (i : Item) : ofJson i.toJson = .ok i := by
  simp [toJson, ofJson, ofParts, expectId, expectString, Json.int64?_ofInt64, Json.str?]
  rfl

namespace Field

theorem ofJson_toJson {f : Field} (writable : f.options.Writable) : ofJson f.toJson = .ok f := by
  simp [toJson, ofJson, ofParts, expectId, expectString, Json.int64?_ofInt64, Json.str?,
    Options.ofJson_toJson writable]
  rfl

theorem ofJson_writable {value : Json} {f : Field} (h : ofJson value = .ok f) :
    f.options.Writable := by
  have parts : ∀ whole id name typeRef options description,
      ofParts whole id name typeRef options description = .ok f → f.options.Writable := by
    intro whole id name typeRef options description h
    simp only [ofParts, Except.bind_eq_ok_iff, Except.mapError_eq_ok_iff] at h
    obtain ⟨id, -, name, -, typeRef, -, read, hread, h⟩ := h
    have same : f.options = read := by
      cases description with
      | none =>
        cases h
        rfl
      | some text =>
        obtain ⟨description, -, h⟩ := Except.bind_eq_ok_iff.mp h
        cases h
        rfl
    rw [same]
    exact Options.ofJson_writable hread
  unfold ofJson at h
  split at h
  · exact parts _ _ _ _ _ _ h
  · exact parts _ _ _ _ _ _ h
  · cases h

end Field

namespace TypeDefinition

structure Writable (d : TypeDefinition) : Prop where
  wellFormed : d.WellFormed
  options : d.options.Writable
  fields : ∀ f ∈ d.fields, f.options.Writable

section Writing

theorem mapM_ofJson_items (items : List Item) :
    (items.map Item.toJson).mapM Item.ofJson = .ok items := by
  rw [Except.mapM_eq_ok_iff, List.forall₂_map_left_iff]
  exact List.forall₂_same.mpr fun i _ => i.ofJson_toJson

theorem mapM_ofJson_fields {fields : List Field} (h : ∀ f ∈ fields, f.options.Writable) :
    (fields.map Field.toJson).mapM Field.ofJson = .ok fields := by
  rw [Except.mapM_eq_ok_iff, List.forall₂_map_left_iff]
  exact List.forall₂_same.mpr fun f hf => Field.ofJson_toJson (h f hf)

theorem ofParts_eq_ok {name description : String} {base : BaseType} {options : Options}
    {members : Option Json} {entries : List Json} {kind : Kind} {d : TypeDefinition}
    (writable : options.Writable) (given : members.getD (.arr []) = .arr entries)
    (allowed : base.hasFields = true ∨ entries = [])
    (read : kindOfJson base entries = .ok kind)
    (created : create name kind options description = .ok d) :
    ofParts (.str name) (.str base.name) options.toJson (.str description) members = .ok d := by
  have known : BaseType.ofName base.name = .ok base := by simp [BaseType.ofName]
  have fits : (!base.hasFields && !entries.isEmpty) = false := by
    rcases allowed with fields | rfl
    · simp [fields]
    · simp
  simp only [ofParts, Json.str?, known, locate, Options.ofJson_toJson writable, given, Json.arr?,
    Except.bind_eq_ok_iff, Except.mapError_eq_ok_iff]
  refine ⟨base, rfl, options, rfl, ?_⟩
  rw [fits, if_neg Bool.false_ne_true, Except.bind_eq_ok_iff]
  exact ⟨kind, Except.mapError_eq_ok_iff.mpr read, created⟩

/-- A definition is read back from what it is written as. -/
theorem ofJson_toJson {d : TypeDefinition} (h : d.Writable) : ofJson d.toJson = .ok d := by
  have created : create d.name d.kind d.options d.description = .ok d :=
    create_eq_ok_iff.mpr ⟨rfl, h.wellFormed⟩
  -- The members are all that is left to read.
  have members : ∀ entries, d.membersToJson?.getD (.arr []) = .arr entries →
      (d.baseType.hasFields = true ∨ entries = []) →
        kindOfJson d.baseType entries = .ok d.kind → ofJson d.toJson = .ok d := by
    intro entries given allowed read
    have parts := ofParts_eq_ok h.options given allowed read created
    rw [toJson]
    cases own : d.membersToJson? <;> rw [own] at parts <;> exact parts
  have fields := mapM_ofJson_fields h.fields
  cases kind : d.kind
  case enumerated items =>
    have read := mapM_ofJson_items items
    refine members (items.map Item.toJson) ?_ ?_ ?_
    · rw [membersToJson?, kind]
      dsimp only
      split
      · next empty =>
        rw [Bool.and_eq_true, List.isEmpty_iff] at empty
        rw [empty.1]
        rfl
      · rfl
    · exact Or.inl (by simp [baseType, kind, Kind.baseType, BaseType.hasFields])
    · rw [baseType, kind, Kind.baseType, kindOfJson, read]
      rfl
  case choice | array | map | record =>
    rename_i fs
    have own : d.fields = fs := by rw [TypeDefinition.fields, kind]; rfl
    rw [own] at fields
    refine members (fs.map Field.toJson) ?_ ?_ ?_
    · rw [membersToJson?, kind]
      rfl
    · exact Or.inl (by simp [baseType, kind, Kind.baseType, BaseType.hasFields])
    · rw [baseType, kind, Kind.baseType, kindOfJson, fields]
      rfl
  all_goals
    refine members [] ?_ (Or.inr rfl) ?_
    · rw [membersToJson?, kind]
      rfl
    · rw [baseType, kind]
      rfl

end Writing

theorem ofJson_writable {value : Json} {d : TypeDefinition} (h : ofJson value = .ok d) :
    d.Writable := by
  have formed := ofJson_wellFormed h
  have listed : ∀ {entries : List Json} {fields : List Field},
      entries.mapM Field.ofJson = .ok fields → ∀ f ∈ fields, f.options.Writable := by
    intro entries fields read f hf
    obtain ⟨entry, -, own⟩ := Except.exists_of_mem_mapM read hf
    exact Field.ofJson_writable own
  have kinds : ∀ {base : BaseType} {entries : List Json} {kind : Kind},
      kindOfJson base entries = .ok kind → ∀ f ∈ kind.fields, f.options.Writable := by
    intro base entries kind read f hf
    cases base
    case choice | array | map | record =>
      obtain ⟨fields, own, rfl⟩ := Except.map_eq_ok_iff.mp read
      exact listed own f hf
    case enumerated =>
      obtain ⟨items, -, rfl⟩ := Except.map_eq_ok_iff.mp read
      cases hf
    all_goals
      cases read
      cases hf
  have parts : ∀ name base options description members,
      ofParts name base options description members = .ok d →
        d.options.Writable ∧ ∀ f ∈ d.fields, f.options.Writable := by
    intro name base options description members h
    unfold ofParts at h
    split at h
    · split at h
      · simp only [Except.bind_eq_ok_iff, locate, Except.mapError_eq_ok_iff] at h
        obtain ⟨base, -, options, hoptions, h⟩ := h
        split at h
        · split at h
          · split at h
            · cases h
            · simp only [Except.bind_eq_ok_iff, Except.mapError_eq_ok_iff] at h
              obtain ⟨kind, hkind, created⟩ := h
              obtain ⟨rfl, -⟩ := create_eq_ok_iff.mp created
              exact ⟨Options.ofJson_writable hoptions, kinds hkind⟩
          · cases h
        · cases h
      · cases h
    · cases h
  unfold ofJson at h
  split at h
  · exact ⟨formed, (parts _ _ _ _ _ h).1, (parts _ _ _ _ _ h).2⟩
  · exact ⟨formed, (parts _ _ _ _ _ h).1, (parts _ _ _ _ _ h).2⟩
  · cases h

end TypeDefinition

end Jadn
