import Jadn.Proofs.Expansion.Equality

/-!
What expansion may change.

`Kept` relates an instance to what may become of it, as far as so many levels reach. Objects keep
the number and the order of their members, and each member its key, unless it becomes the name of
the field that the key denotes; members that denote no field are kept as they are. Arrays keep their
lengths, but a record that is given by its values in order becomes an object with the values that
are not null. The id of an item becomes its name. Nothing else is copied but what `Unmapped` lists.
The keys that are written are distinct wherever those that were read are, so that no member takes
the place of another.
-/

set_option autoImplicit false

namespace Jadn.Expansion

variable {s : Schema} {below : TypeDefinition → Json → Json → Prop} {d : TypeDefinition}

/-- What may become of the value of a field: it is kept, or it is an instance of the type of the
field, or a list of them where the field takes an array. -/
inductive KeptField (s : Schema) (below : TypeDefinition → Json → Json → Prop)
    (d : TypeDefinition) (f : Field) : Json → Json → Prop where
  | untyped {v : Json} (none : s.fieldType? d.name f = none) : KeptField s below d f v v
  | each {t : TypeDefinition} {vs ws : List Json} (type : s.fieldType? d.name f = some t)
      (repeated : f.isRepeated = true) (related : List.Forall₂ (below t) vs ws) :
      KeptField s below d f (.arr vs) (.arr ws)
  | whole {t : TypeDefinition} {v w : Json} (type : s.fieldType? d.name f = some t)
      (single : f.isRepeated = false ∨ v.arr? = Option.none) (related : below t v w) :
      KeptField s below d f v w

/-- What may become of a member: one that denotes no field is kept, and the key of a field becomes
its name, unless fields go by id. -/
inductive KeptMember (s : Schema) (below : TypeDefinition → Json → Json → Prop)
    (d : TypeDefinition) : String × Json → String × Json → Prop where
  | other {key : String} {v : Json} (undenoted : d.fieldOfKey? key = none) :
      KeptMember s below d (key, v) (key, v)
  | byId {key : String} {f : Field} {v w : Json} (denoted : d.fieldOfKey? key = some f)
      (mode : d.options.byId = true) (related : KeptField s below d f v w) :
      KeptMember s below d (key, v) (key, w)
  | byName {key : String} {f : Field} {v w : Json} (denoted : d.fieldOfKey? key = some f)
      (mode : d.options.byId = false) (related : KeptField s below d f v w) :
      KeptMember s below d (key, v) (f.name, w)

inductive KeptPlace (s : Schema) (below : TypeDefinition → Json → Json → Prop)
    (d : TypeDefinition) (fields : List Field) : Nat → Json → Json → Prop where
  | null {i : Nat} {v : Json} (null : v.isNull = true) : KeptPlace s below d fields i v v
  | beyond {i : Nat} {v : Json} (beyond : fields.length ≤ i) : KeptPlace s below d fields i v v
  | field {i : Nat} {f : Field} {v w : Json} (place : fields[i]? = some f)
      (related : KeptField s below d f v w) : KeptPlace s below d fields i v w

def Maps (d : TypeDefinition) : Json → Prop
  | .int _ => d.baseType = .enumerated
  | .arr _ => d.baseType = .array ∨ d.baseType = .arrayOf ∨ d.baseType = .record
  | .obj _ => d.baseType = .choice ∨ d.baseType = .map ∨ d.baseType = .mapOf ∨ d.baseType = .record
  | _ => False

/-- The values that expansion cannot map, and so copies. -/
inductive Unmapped (s : Schema) (d : TypeDefinition) : Json → Prop where
  | form {v : Json} (other : ¬Maps d v) : Unmapped s d v
  /-- No item has the number for its id, or items go by their ids. -/
  | item {items : List Item} {n : Int} (kind : d.kind = .enumerated items)
      (kept : d.options.byId = true ∨ ∀ i ∈ items, (Json.int n).int64? ≠ some i.id) :
      Unmapped s d (.int n)
  | positions {fields : List Field} {vs : List Json} (kind : d.kind = .record fields)
      (kept : d.options.byId = true ∨ fields.length < vs.length) : Unmapped s d (.arr vs)
  /-- Two members denote one field. -/
  | aliases {ms : Dict Json} (fields : d.baseType = .choice ∨ d.baseType = .map ∨
      d.baseType = .record) (twice : ¬d.KeysApart ms.keys) : Unmapped s d (.obj ms)
  | untyped {v : Json} (collection : d.kind = .arrayOf ∨ d.kind = .mapOf)
      (none : elementType? s d = none) : Unmapped s d v

/-- What may become of an instance at one level, given what may become of it further in. -/
inductive KeptLevel (s : Schema) (below : TypeDefinition → Json → Json → Prop)
    (d : TypeDefinition) : Json → Json → Prop where
  | copied {v : Json} (unmapped : Unmapped s d v) : KeptLevel s below d v v
  /-- The id of an item becomes its name. -/
  | item {items : List Item} {i : Item} {v : Json} (kind : d.kind = .enumerated items)
      (byName : d.options.byId = false) (listed : i ∈ items) (id : v.int64? = some i.id) :
      KeptLevel s below d v (.str i.value)
  /-- Members keep their number and order, and none takes the place of another when they are entered
  one by one. -/
  | members {ms ns : Dict Json} (fields : d.baseType = .choice ∨ d.baseType = .map ∨
        d.baseType = .record) (apart : d.KeysApart ms.keys)
      (related : List.Forall₂ (KeptMember s below d) ms ns)
      (entered : ms.keys.Nodup → Dict.ofList ns = ns) : KeptLevel s below d (.obj ms) (.obj ns)
  /-- The values of a record become members under the names of their fields, save those that are
  null. -/
  | positions {fields : List Field} {vs : List Json} {ns : Dict Json}
      (kind : d.kind = .record fields) (byName : d.options.byId = false)
      (fits : vs.length ≤ fields.length)
      (related : List.Forall₂ (fun p n => n.1 = p.1.name ∧ KeptField s below d p.1 p.2 n.2)
        ((fields.zip vs).filter fun p => !p.2.isNull) ns)
      (entered : Dict.ofList ns = ns) : KeptLevel s below d (.arr vs) (.obj ns)
  | places {fields : List Field} {vs ws : List Json} (kind : d.kind = .array fields)
      (length : ws.length = vs.length)
      (related : ∀ i v w, vs[i]? = some v → ws[i]? = some w → KeptPlace s below d fields i v w) :
      KeptLevel s below d (.arr vs) (.arr ws)
  | elements {t : TypeDefinition} {vs ws : List Json} (kind : d.kind = .arrayOf)
      (vtype : elementType? s d = some t) (related : List.Forall₂ (below t) vs ws) :
      KeptLevel s below d (.arr vs) (.arr ws)
  /-- A map from keys has no fields: its keys are kept, and its values are instances of a type. -/
  | entries {t : TypeDefinition} {ms ns : Dict Json} (kind : d.kind = .mapOf)
      (vtype : elementType? s d = some t)
      (related : List.Forall₂ (fun m n => m.1 = n.1 ∧ below t m.2 n.2) ms ns) :
      KeptLevel s below d (.obj ms) (.obj ns)

/-- What may become of an instance, as far as so many levels reach. -/
def Kept (s : Schema) : Nat → TypeDefinition → Json → Json → Prop
  | 0, _, v, w => w = v
  | levels + 1, d, v, w => KeptLevel s (Kept s levels) d v w

section Level

variable {inner : Expander}

theorem keptLevel_int (n : Int) : KeptLevel s below d (.int n) (expandLevel s inner d (.int n)) := by
  cases kind : d.kind with
  | enumerated items =>
    simp only [expandLevel, kind]
    cases mode : d.options.byId with
    | true => exact .copied (.item kind (.inl mode))
    | false =>
      simp only [Bool.false_eq_true, if_false]
      unfold expandItem
      split
      · next i found =>
        obtain ⟨id, read, listed⟩ := Option.bind_eq_some_iff.mp found
        have same : i.id = id := by simpa using List.find?_some listed
        exact .item kind mode (List.mem_of_find?_eq_some listed) (same ▸ read)
      · next missing =>
        refine .copied (.item kind (.inr fun i listed read => ?_))
        have other := List.find?_eq_none.mp (Option.bind_eq_none_iff.mp missing i.id read) i listed
        simp at other
  | _ =>
    simp only [expandLevel, kind]
    exact .copied (.form (by simp [Maps, TypeDefinition.baseType, kind, Kind.baseType]))

variable (further : ∀ t, s.Denotes t → ∀ v, below t v (inner t v))
include further

theorem forall₂_map_inner {t : TypeDefinition} (denoted : s.Denotes t) (vs : List Json) :
    List.Forall₂ (below t) vs (vs.map (inner t)) := by
  rw [List.forall₂_map_right_iff, List.forall₂_same]
  exact fun v _ => further t denoted v

theorem keptField (f : Field) (v : Json) : KeptField s below d f v (expandField s inner d f v) := by
  cases type : s.fieldType? d.name f with
  | none =>
    have kept : expandField s inner d f v = v := by simp [expandField, type]
    rw [kept]
    exact .untyped type
  | some t =>
    have denoted : s.Denotes t := .inr ⟨d.name, f, type⟩
    have whole : f.isRepeated = false ∨ v.arr? = none →
        KeptField s below d f v (expandField s inner d f v) := by
      intro single
      rw [expandField_whole type single]
      exact .whole type single (further t denoted v)
    cases repeated : f.isRepeated with
    | false => exact whole (.inl repeated)
    | true =>
      cases v with
      | arr values =>
        rw [expandField_each type repeated]
        exact .each type repeated (forall₂_map_inner further denoted values)
      | _ => exact whole (.inr rfl)

theorem keptMember (m : String × Json) :
    KeptMember s below d m (expandMember d (expandField s inner d) m) := by
  obtain ⟨key, v⟩ := m
  unfold expandMember
  dsimp only
  cases denoted : d.fieldOfKey? key with
  | none => exact .other denoted
  | some f =>
    cases mode : d.options.byId with
    | true => exact .byId denoted mode (keptField further f v)
    | false => exact .byName denoted mode (keptField further f v)

theorem keptPlace (fields : List Field) (vs : List Json) (i : Nat) (v w : Json)
    (given : vs[i]? = some v)
    (made : (expandPlaces (expandField s inner d) fields vs)[i]? = some w) :
    KeptPlace s below d fields i v w := by
  induction fields generalizing vs i with
  | nil =>
    have kept : expandPlaces (expandField s inner d) [] vs = vs := by simp [expandPlaces]
    rw [kept, given] at made
    obtain rfl := Option.some.inj made
    exact .beyond (Nat.zero_le i)
  | cons f fields ih =>
    cases vs with
    | nil => cases given
    | cons u vs =>
      rw [expandPlaces] at made
      cases i with
      | zero =>
        obtain rfl := Option.some.inj given
        obtain rfl := Option.some.inj made
        cases null : u.isNull with
        | true => exact .null null
        | false => exact .field rfl (keptField further f u)
      | succ i =>
        cases ih vs i given made with
        | null null => exact .null null
        | beyond beyond => exact .beyond (Nat.succ_le_succ beyond)
        | field place related => exact .field place related

/-- An object that names no field twice has as many members as before, each under its own key. -/
theorem keptLevel_obj (formed : d.WellFormed)
    (fields : d.baseType = .choice ∨ d.baseType = .map ∨ d.baseType = .record) (ms : Dict Json) :
    KeptLevel s below d (.obj ms) (expandLevel s inner d (.obj ms)) := by
  have apart_iff : repeatsField d ms = false ↔ d.KeysApart ms.keys :=
    formed.repeatsField_eq_false_iff
  rw [Validation.expandLevel_of_members fields, expandObject]
  cases twice : repeatsField d ms with
  | true => exact .copied (.aliases fields (by simp [← apart_iff, twice]))
  | false =>
    have apart := apart_iff.mp twice
    refine .members fields apart ?_ fun distinct => ?_
    · rw [List.forall₂_map_right_iff, List.forall₂_same]
      exact fun m _ => keptMember further m
    · exact Dict.ofList_of_nodup (nodup_keys_map formed distinct apart)

/-- A record that is given by its values has a member for each that is not null. -/
theorem keptLevel_positions (formed : d.WellFormed) {fields : List Field}
    (kind : d.kind = .record fields) (byName : d.options.byId = false) {vs : List Json}
    (fits : vs.length ≤ fields.length) :
    KeptLevel s below d (.arr vs)
      (.obj (expandValues (expandField s inner d) fields vs)) := by
  have own : d.fields = fields := congrArg Kind.fields kind
  refine .positions kind byName fits ?_ ?_
  · rw [show expandValues (expandField s inner d) fields vs =
      Validation.keyedBy (expandField s inner d) fields false vs from rfl, Validation.keyedBy_eq,
      List.forall₂_map_right_iff, List.forall₂_same]
    exact fun p _ => ⟨rfl, keptField further p.1 p.2⟩
  · rw [← own, expandValues_eq_keyed formed byName]
    exact Dict.ofList_of_nodup (nodup_keys_map formed (nodup_keys_keyed formed vs)
      (Validation.keysApart_keyed formed vs))

theorem keptLevel_entries (kind : d.kind = .mapOf) (ms : Dict Json) :
    KeptLevel s below d (.obj ms) (expandLevel s inner d (.obj ms)) := by
  cases vtype : elementType? s d with
  | none =>
    simp only [expandLevel, kind, vtype]
    exact .copied (.untyped (.inr kind) vtype)
  | some t =>
    simp only [expandLevel, kind, vtype]
    refine .entries kind vtype ?_
    rw [List.forall₂_map_right_iff, List.forall₂_same]
    exact fun m _ => ⟨rfl, further t (Schema.denotes_of_bind vtype) m.2⟩

theorem keptLevel_arr (formed : d.WellFormed) (vs : List Json) :
    KeptLevel s below d (.arr vs) (expandLevel s inner d (.arr vs)) := by
  cases kind : d.kind with
  | array fields =>
    simp only [expandLevel, kind]
    exact .places kind (length_expandPlaces fields vs) (keptPlace further fields vs)
  | arrayOf =>
    cases vtype : elementType? s d with
    | none =>
      simp only [expandLevel, kind, vtype]
      exact .copied (.untyped (.inl kind) vtype)
    | some t =>
      simp only [expandLevel, kind, vtype]
      exact .elements kind vtype (forall₂_map_inner further (Schema.denotes_of_bind vtype) vs)
  | record fields =>
    simp only [expandLevel, kind]
    by_cases kept : (d.options.byId || fields.length < vs.length) = true
    · rw [if_pos kept]
      exact .copied (.positions kind (by simpa using kept))
    · rw [if_neg kept]
      simp only [Bool.or_eq_true, decide_eq_true_eq, not_or, Nat.not_lt, Bool.not_eq_true] at kept
      exact keptLevel_positions further formed kind kept.1 kept.2
  | _ =>
    simp only [expandLevel, kind]
    exact .copied (.form (by simp [Maps, TypeDefinition.baseType, kind, Kind.baseType]))

theorem keptLevel (formed : d.WellFormed) (v : Json) :
    KeptLevel s below d v (expandLevel s inner d v) := by
  cases v with
  | arr vs => exact keptLevel_arr further formed vs
  | obj ms =>
    cases kind : d.kind with
    | choice => exact keptLevel_obj further formed (.inl (congrArg Kind.baseType kind)) ms
    | map => exact keptLevel_obj further formed (.inr (.inl (congrArg Kind.baseType kind))) ms
    | record => exact keptLevel_obj further formed (.inr (.inr (congrArg Kind.baseType kind))) ms
    | mapOf => exact keptLevel_entries further kind ms
    | _ =>
      simp only [expandLevel, kind]
      exact .copied (.form (by simp [Maps, TypeDefinition.baseType, kind, Kind.baseType]))
  | int n => exact keptLevel_int n
  | _ =>
    cases kind : d.kind <;> simp only [expandLevel, kind] <;> exact .copied (.form id)

end Level

/-- However many levels are expanded, nothing is lost or merged at any of them. -/
theorem kept_expandLevels (built : s.Built) (levels : Nat) {d : TypeDefinition}
    (denoted : s.Denotes d) (v : Json) : Kept s levels d v (expandLevels s levels d v) := by
  induction levels generalizing d v with
  | zero => rfl
  | succ levels ih =>
    exact keptLevel (fun t denoted v => ih denoted v) (built.wellFormed_of_denotes denoted) v

end Jadn.Expansion

namespace Jadn.Schema

open Expansion

/-- Expansion loses and merges nothing at any level. Objects keep their members in order, those that
denote no field as they are and the others under the names of their fields; arrays keep their
lengths, save records given by their values, which become objects with those that are not null; and
a value without parts changes only where the id of an item becomes its name. The values of a map
from keys are instances of their own. -/
theorem expand_kept {s : Schema} (built : s.Built) {name : String} {d : TypeDefinition}
    (found : s.lookup? name = some d) (v : Json) :
    ∃ w, s.expand name v = .ok w ∧ Kept s (s.limits.maxDepth + 1) d v w ∧
      (v.Distinct → w.Distinct) := by
  have denoted : s.Denotes d := .inl ⟨name, found⟩
  refine ⟨d.expand s v, by rw [expand, found], kept_expandLevels built _ denoted v, fun hv => ?_⟩
  exact (respects_expandLevels built _ d denoted v v (.refl hv)).distinct

def hue : TypeDefinition where
  name := "Hue"
  options := {}
  description := ""
  kind := .enumerated [⟨1, "red", ""⟩, ⟨2, "blue", ""⟩]

def stroke : TypeDefinition where
  name := "Stroke"
  options := { extensible := true }
  description := ""
  kind := .record [.new 1 "2" "Integer", .new 2 "hue" "Hue"]

def strokes : Schema where
  info := {}
  types := [hue, stroke]
  limits := {}
  extensions := []
  fieldTypes := []
  patterns := []

theorem strokes_built : strokes.Built := ⟨by decide, .entered, rfl⟩

/-- A key that denotes the field of its name, one that denotes no field, and one that denotes a
field by its id are all kept apart. -/
theorem expand_stroke_kept :
    strokes.expand "Stroke" (.obj [("2", .int 7), ("3", .int 1), ("hue", .int 1)]) =
        .ok (.obj [("2", .int 7), ("3", .int 1), ("hue", .str "red")]) ∧
      Kept strokes (strokes.limits.maxDepth + 1) stroke
        (.obj [("2", .int 7), ("3", .int 1), ("hue", .int 1)])
        (.obj [("2", .int 7), ("3", .int 1), ("hue", .str "red")]) := by
  have found : strokes.lookup? "Stroke" = some stroke := rfl
  have computed : strokes.expand "Stroke" (.obj [("2", .int 7), ("3", .int 1), ("hue", .int 1)]) =
      .ok (.obj [("2", .int 7), ("3", .int 1), ("hue", .str "red")]) := rfl
  obtain ⟨w, made, kept, -⟩ := expand_kept strokes_built found
    (.obj [("2", .int 7), ("3", .int 1), ("hue", .int 1)])
  obtain rfl := Except.ok.inj (computed.symm.trans made)
  exact ⟨computed, kept⟩

example : strokes.expand "Stroke" (.arr [.null, .int 2]) = .ok (.obj [("hue", .str "blue")]) := rfl

end Jadn.Schema
