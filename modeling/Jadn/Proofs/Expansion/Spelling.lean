import Jadn.Proofs.Expansion.Equality

/-!
Expansion as a canonical form for the ways in which an instance can be spelled.

Fields go by name or by id, items by value or by id, and records are objects or lists of values;
`Spelled` relates instances that differ in no more, as far as so many levels reach. Their verbose
forms are equal and they are accepted alike, if no field is named like an integer.
-/

set_option autoImplicit false

namespace Jadn

open Json (Equal EqualMember)

namespace TypeDefinition

/-- A key names a field by its id, in any integer text, or by its name, unless fields go by id. -/
def Names (d : TypeDefinition) (key : String) (f : Field) : Prop :=
  f ∈ d.fields ∧ (Numeral.int64? key = some f.id ∨ d.options.byId = false ∧ key = f.name)

def NamesOnce (d : TypeDefinition) (members : Dict Json) : Prop :=
  members.Pairwise fun p q => ∀ f, ¬ (d.Names p.1 f ∧ d.Names q.1 f)

def Unnumbered (d : TypeDefinition) : Prop := ∀ f ∈ d.fields, Numeral.int64? f.name = none

variable {d : TypeDefinition}

theorem names_of_fieldOfKey? {key : String} {f : Field} (h : d.fieldOfKey? key = some f) :
    d.Names key f := by
  refine ⟨mem_fields_of_fieldOfKey? h, ?_⟩
  have numbered : (Numeral.int64? key).bind d.fieldWithId? = some f →
      Numeral.int64? key = some f.id := by
    intro found
    obtain ⟨id, read, found⟩ := Option.bind_eq_some_iff.mp found
    have same : f.id = id := by simpa using List.find?_some found
    rw [read, same]
  cases mode : d.options.byId with
  | true =>
    rw [fieldOfKey?_of_byId mode] at h
    exact Or.inl (numbered h)
  | false =>
    rw [fieldOfKey?_of_byName mode, Option.or_eq_some_iff] at h
    rcases h with named | ⟨-, found⟩
    · have same : f.name = key := by simpa using List.find?_some named
      exact Or.inr ⟨rfl, same.symm⟩
    · exact Or.inl (numbered found)

/-- A name and an integer text never name different fields. -/
theorem WellFormed.names_iff (formed : d.WellFormed) (unnumbered : d.Unnumbered) {key : String}
    {f : Field} : d.Names key f ↔ d.fieldOfKey? key = some f := by
  refine ⟨?_, names_of_fieldOfKey?⟩
  rintro ⟨hf, spelled⟩
  rcases spelled with read | ⟨mode, rfl⟩
  · have found : (Numeral.int64? key).bind d.fieldWithId? = some f := by
      rw [read, Option.bind_some, formed.fieldWithId? hf]
    cases mode : d.options.byId with
    | true => rw [fieldOfKey?_of_byId mode, found]
    | false =>
      have unnamed : d.fieldNamed? key = none := by
        refine List.find?_eq_none.mpr fun g hg same => ?_
        rw [← beq_iff_eq.mp same, unnumbered g hg] at read
        cases read
      rw [fieldOfKey?_of_byName mode, unnamed, Option.none_or, found]
  · rw [fieldOfKey?_of_byName mode, formed.fieldNamed? hf, Option.some_or]

theorem WellFormed.keysApart_iff (formed : d.WellFormed) (unnumbered : d.Unnumbered)
    {members : Dict Json} : d.KeysApart members.keys ↔ d.NamesOnce members := by
  unfold KeysApart NamesOnce Dict.keys
  rw [List.pairwise_map]
  simp only [formed.names_iff unnumbered, not_and]

end TypeDefinition

theorem Schema.Built.unnumbered_of_denotes {s : Schema} (built : s.Built)
    (unnumbered : ∀ d ∈ s.types, d.Unnumbered) {d : TypeDefinition} (denoted : s.Denotes d) :
    d.Unnumbered := by
  refine built.denotes_induction (fun reference t found => ?_) (fun _ _ _ h => h) denoted
  have empty : ∀ {e : TypeDefinition}, e.fields = [] → e.Unnumbered := by
    intro e none f hf
    rw [none] at hf
    cases hf
  refine resolve?_induction built.tables.extensions (fun key e derives => empty ?_) unnumbered
    (fun base => empty (by cases base <;> rfl)) found
  obtain ⟨items, kind⟩ : ∃ items, e.kind = .enumerated items := by
    cases derives with
    | own _ _ => exact ⟨_, rfl⟩
    | listed _ _ enumerated => exact (TypeDefinition.toEnumeration_eq_ok enumerated).1
  exact congrArg Kind.fields kind

namespace Expansion

open Validation (keyed)

variable {s : Schema} {below : TypeDefinition → Json → Json → Prop} {d : TypeDefinition}

inductive SpelledField (s : Schema) (below : TypeDefinition → Json → Json → Prop)
    (d : TypeDefinition) (f : Field) : Json → Json → Prop where
  | untyped {v w : Json} (none : s.fieldType? d.name f = none) (equal : (v == w) = true) :
      SpelledField s below d f v w
  | each {t : TypeDefinition} {vs ws : List Json} (type : s.fieldType? d.name f = some t)
      (repeated : f.isRepeated = true) (related : List.Forall₂ (below t) vs ws) :
      SpelledField s below d f (.arr vs) (.arr ws)
  | whole {t : TypeDefinition} {v w : Json} (type : s.fieldType? d.name f = some t)
      (single : f.isRepeated = false ∨ v.arr? = Option.none ∧ w.arr? = Option.none)
      (related : below t v w) : SpelledField s below d f v w

/-- Members that differ in spelling: of one field, under one key where fields go by id, or of
no field. -/
inductive SpelledMember (s : Schema) (below : TypeDefinition → Json → Json → Prop)
    (d : TypeDefinition) : String × Json → String × Json → Prop where
  | field {f : Field} {key key' : String} {v w : Json} (names : d.Names key f)
      (names' : d.Names key' f) (kept : d.options.byId = true → key = key')
      (related : SpelledField s below d f v w) : SpelledMember s below d (key, v) (key', w)
  | other {key : String} {v w : Json} (unnamed : ∀ f, ¬ d.Names key f)
      (equal : (v == w) = true) : SpelledMember s below d (key, v) (key, w)

/-- The members that an instance shows: those of an object that names no field twice, or the
values of a record in the order of its fields. -/
inductive Shows (d : TypeDefinition) : Json → Dict Json → Prop where
  | object {members : Dict Json} (once : d.NamesOnce members) : Shows d (.obj members) members
  | places {fields : List Field} {values : List Json} (kind : d.kind = .record fields)
      (byName : d.options.byId = false) (fits : values.length ≤ fields.length) :
      Shows d (.arr values) (keyed fields false values)

inductive SpelledPlaces (s : Schema) (below : TypeDefinition → Json → Json → Prop)
    (d : TypeDefinition) : List Field → List Json → List Json → Prop where
  | place {f : Field} {fields : List Field} {v w : Json} {vs ws : List Json}
      (related : SpelledField s below d f v w) (rest : SpelledPlaces s below d fields vs ws) :
      SpelledPlaces s below d (f :: fields) (v :: vs) (w :: ws)
  | done {fields : List Field} : SpelledPlaces s below d fields [] []
  | beyond {vs ws : List Json} (equal : List.Forall₂ (fun v w => (v == w) = true) vs ws) :
      SpelledPlaces s below d [] vs ws

def SpellsItem (i : Item) (v : Json) : Prop := v = .str i.value ∨ v = .ofInt64 i.id

/-- Instances that differ in the spelling of one level and in that of the levels below. -/
inductive SpelledLevel (s : Schema) (below : TypeDefinition → Json → Json → Prop)
    (d : TypeDefinition) : Json → Json → Prop where
  | equal {v w : Json} (equal : (v == w) = true) : SpelledLevel s below d v w
  | item {items : List Item} {i : Item} {v w : Json} (kind : d.kind = .enumerated items)
      (byName : d.options.byId = false) (listed : i ∈ items) (spells : SpellsItem i v)
      (spells' : SpellsItem i w) : SpelledLevel s below d v w
  | members {v w : Json} {ms ns : Dict Json}
      (fields : d.baseType = .choice ∨ d.baseType = .map ∨ d.baseType = .record)
      (shows : Shows d v ms) (shows' : Shows d w ns)
      (related : Multiset.Rel (SpelledMember s below d) (ms : Multiset (String × Json)) ns) :
      SpelledLevel s below d v w
  | places {fields : List Field} {vs ws : List Json} (kind : d.kind = .array fields)
      (related : SpelledPlaces s below d fields vs ws) : SpelledLevel s below d (.arr vs) (.arr ws)
  | elements {t : TypeDefinition} {vs ws : List Json} (kind : d.kind = .arrayOf)
      (vtype : elementType? s d = some t) (related : List.Forall₂ (below t) vs ws) :
      SpelledLevel s below d (.arr vs) (.arr ws)
  | entries {t : TypeDefinition} {ms ns : Dict Json} (kind : d.kind = .mapOf)
      (vtype : elementType? s d = some t)
      (related : Multiset.Rel (fun p (q : String × Json) => p.1 = q.1 ∧ below t p.2 q.2)
        (ms : Multiset (String × Json)) ns) : SpelledLevel s below d (.obj ms) (.obj ns)

def Spelled (s : Schema) : Nat → TypeDefinition → Json → Json → Prop
  | 0, _, v, w => (v == w) = true
  | levels + 1, d, v, w => SpelledLevel s (Spelled s levels) d v w

section Shown

variable {v : Json} {ms : Dict Json} (shows : Shows d v ms)
include shows

theorem Shows.keysApart (formed : d.WellFormed) (unnumbered : d.Unnumbered) :
    d.KeysApart ms.keys := by
  cases shows with
  | object once => exact (formed.keysApart_iff unnumbered).mpr once
  | @places fields values kind byName _ =>
    have own : d.fields = fields := congrArg Kind.fields kind
    rw [← own, ← byName]
    exact Validation.keysApart_keyed formed values

theorem Shows.nodup_keys (formed : d.WellFormed) (hv : v.Distinct) : ms.keys.Nodup := by
  cases shows with
  | object _ => exact hv.keys_nodup
  | @places fields values kind byName _ =>
    have own : d.fields = fields := congrArg Kind.fields kind
    rw [← own, ← byName]
    exact nodup_keys_keyed formed values

theorem Shows.distinct (hv : v.Distinct) {p : String × Json} (hp : p ∈ ms) : p.2.Distinct := by
  cases shows with
  | object _ => exact Json.Members.distinct_of_mem hv hp
  | places =>
    obtain ⟨key, v⟩ := p
    obtain ⟨-, f, paired, -⟩ := Validation.mem_keyed_iff.mp hp
    exact hv.of_mem_arr (List.of_mem_zip paired).2

theorem Shows.expandLevel_eq {inner : Expander}
    (fields : d.baseType = .choice ∨ d.baseType = .map ∨ d.baseType = .record)
    (formed : d.WellFormed) (unnumbered : d.Unnumbered) :
    expandLevel s inner d v = .obj (ms.map (expandMember d (expandField s inner d))) := by
  have apart := shows.keysApart formed unnumbered
  cases shows with
  | object _ =>
    have single := formed.repeatsField_eq_false_iff.mpr apart
    rw [Validation.expandLevel_of_members fields, expandObject, single]
    rfl
  | @places fields values kind byName fits =>
    have own : d.fields = fields := congrArg Kind.fields kind
    have made := @expandValues_eq_keyed d (expandField s inner d) formed byName values
    rw [own, byName] at made
    simp only [expandLevel, kind, byName, Nat.not_lt.mpr fits, Bool.false_or, decide_false,
      Bool.false_eq_true, if_false, made]

end Shown

section Level

variable {inner : Expander}

/-- Spelling below a level: equal values are related, and related ones have equal verbose forms. -/
structure Canonical (s : Schema) (below : TypeDefinition → Json → Json → Prop) (inner : Expander) :
    Prop where
  equal : ∀ t v w, (v == w) = true → below t v w
  verbose : ∀ t, s.Denotes t → ∀ v w, v.Distinct → w.Distinct → below t v w →
    Equal (inner t v) (inner t w)

variable (canonical : Canonical s below inner)
include canonical

theorem Canonical.equal_map {t : TypeDefinition} (denoted : s.Denotes t) {vs ws : List Json}
    (hv : ∀ v ∈ vs, v.Distinct) (hw : ∀ w ∈ ws, w.Distinct)
    (related : List.Forall₂ (below t) vs ws) :
    Equal (.arr (vs.map (inner t))) (.arr (ws.map (inner t))) := by
  rw [Json.Equal.arr_iff, List.forall₂_map_left_iff, List.forall₂_map_right_iff]
  refine (forall₂_mem related).imp ?_
  rintro v w ⟨first, second, spelled⟩
  exact canonical.verbose t denoted v w (hv v first) (hw w second) spelled

theorem Canonical.equal_expandField {f : Field} {v w : Json} (hv : v.Distinct) (hw : w.Distinct)
    (spelled : SpelledField s below d f v w) :
    Equal (expandField s inner d f v) (expandField s inner d f w) := by
  cases spelled with
  | untyped none equal =>
    have kept : ∀ v, expandField s inner d f v = v := fun v => by simp [expandField, none]
    rw [kept, kept]
    exact ⟨hv, hw, equal⟩
  | each type repeated related =>
    rw [expandField_each type repeated, expandField_each type repeated]
    exact canonical.equal_map (Or.inr ⟨d.name, f, type⟩) (fun _ => hv.of_mem_arr)
      (fun _ => hw.of_mem_arr) related
  | whole type single related =>
    rw [expandField_whole type (single.imp_right And.left),
      expandField_whole type (single.imp_right And.right)]
    exact canonical.verbose _ (Or.inr ⟨d.name, f, type⟩) v w hv hw related

theorem Canonical.equal_expandMember (formed : d.WellFormed) (unnumbered : d.Unnumbered)
    {p q : String × Json} (hp : p.2.Distinct) (hq : q.2.Distinct)
    (spelled : SpelledMember s below d p q) :
    EqualMember (expandMember d (expandField s inner d) p)
      (expandMember d (expandField s inner d) q) := by
  cases spelled with
  | @field f key key' v w names names' kept related =>
    have equal := canonical.equal_expandField hp hq related
    have denotes := (formed.names_iff unnumbered).mp names
    have denotes' := (formed.names_iff unnumbered).mp names'
    cases mode : d.options.byId with
    | true => simpa [EqualMember, expandMember, denotes, denotes', mode, kept mode] using equal
    | false => simpa [EqualMember, expandMember, denotes, denotes', mode] using equal
  | @other key v w unnamed equal =>
    have nothing : d.fieldOfKey? key = none := Option.eq_none_iff_forall_ne_some.mpr
      fun f found => unnamed f (TypeDefinition.names_of_fieldOfKey? found)
    have same : Equal v w := ⟨hp, hq, equal⟩
    simpa [EqualMember, expandMember, nothing] using same

theorem Canonical.equal_members (formed : d.WellFormed) (unnumbered : d.Unnumbered)
    (fields : d.baseType = .choice ∨ d.baseType = .map ∨ d.baseType = .record) {v w : Json}
    (hv : v.Distinct) (hw : w.Distinct) {ms ns : Dict Json} (shows : Shows d v ms)
    (shows' : Shows d w ns)
    (related : Multiset.Rel (SpelledMember s below d) (ms : Multiset (String × Json)) ns) :
    Equal (expandLevel s inner d v) (expandLevel s inner d w) := by
  rw [shows.expandLevel_eq fields formed unnumbered, shows'.expandLevel_eq fields formed unnumbered,
    Json.Equal.obj_iff]
  have distinct := shows.nodup_keys formed hv
  refine ⟨nodup_keys_map formed distinct (shows.keysApart formed unnumbered), ?_⟩
  rw [← Multiset.map_coe, ← Multiset.map_coe, Multiset.rel_map]
  exact related.mono fun p hp q hq spelled => canonical.equal_expandMember formed unnumbered
    (shows.distinct hv hp) (shows'.distinct hw hq) spelled

theorem Canonical.equal_places (settled : Settled s inner) {fields : List Field}
    {vs ws : List Json} (hv : ∀ v ∈ vs, v.Distinct) (hw : ∀ w ∈ ws, w.Distinct)
    (spelled : SpelledPlaces s below d fields vs ws) :
    List.Forall₂ Equal (expandPlaces (expandField s inner d) fields vs)
      (expandPlaces (expandField s inner d) fields ws) := by
  induction spelled with
  | done => simp [expandPlaces]
  | beyond equal =>
    simp only [expandPlaces]
    refine (forall₂_mem equal).imp ?_
    rintro v w ⟨first, second, same⟩
    exact ⟨hv v first, hw w second, same⟩
  | @place f fields v w vs ws related rest ih =>
    obtain ⟨hv, hvs⟩ := List.forall_mem_cons.mp hv
    obtain ⟨hw, hws⟩ := List.forall_mem_cons.mp hw
    have equal := canonical.equal_expandField hv hw related
    -- A null stands for a null, since expansion keeps it.
    have null : v.isNull = w.isNull := by
      rw [← settled.expandField_isNull d f v, equal.isNull, settled.expandField_isNull]
    refine .cons ?_ (ih hvs hws)
    cases given : w.isNull with
    | false => simpa [null, given] using equal
    | true =>
      rw [given] at null
      simpa [null, given] using (⟨hv, hw, Json.same_of_isNull null given⟩ : Equal v w)

theorem Canonical.equal_entries {t : TypeDefinition} (denoted : s.Denotes t) {ms ns : Dict Json}
    (hm : (Json.obj ms).Distinct) (hn : (Json.obj ns).Distinct)
    (related : Multiset.Rel (fun p (q : String × Json) => p.1 = q.1 ∧ below t p.2 q.2)
      (ms : Multiset (String × Json)) ns) :
    Equal (.obj (ms.map fun p => (p.1, inner t p.2)))
      (.obj (ns.map fun q => (q.1, inner t q.2))) := by
  rw [Json.Equal.obj_iff]
  constructor
  · simpa [Dict.keys, Function.comp_def] using hm.keys_nodup
  · rw [← Multiset.map_coe, ← Multiset.map_coe, Multiset.rel_map]
    exact related.mono fun p hp q hq spelled => ⟨spelled.1, canonical.verbose t denoted _ _
      (Json.Members.distinct_of_mem hm hp) (Json.Members.distinct_of_mem hn hq) spelled.2⟩

omit canonical in
theorem expandLevel_of_spellsItem (formed : d.WellFormed) {items : List Item}
    (kind : d.kind = .enumerated items) (byName : d.options.byId = false) {i : Item}
    (listed : i ∈ items) {v : Json} (spells : SpellsItem i v) :
    expandLevel s inner d v = .str i.value := by
  rcases spells with rfl | rfl
  · simp only [expandLevel, kind]
  · have ids : (items.map Item.id).Nodup := by
      simpa [TypeDefinition.memberKeys, kind, Function.comp_def] using formed.ids
    have found : ((Json.ofInt64 i.id).int64?.bind fun id => items.find? (·.id == id)) = some i := by
      simp only [Json.ofInt64, Json.int64?, Numeral.word?_toInt, Option.bind_some]
      exact find?_key_eq_some ids listed
    rw [Json.ofInt64] at found ⊢
    simp only [expandLevel, kind, byName, expandItem, found, Bool.false_eq_true, if_false]

variable (respects : Respects s inner) (settled : Settled s inner) (formed : d.WellFormed)
  (unnumbered : d.Unnumbered)
include respects settled formed unnumbered

/-- If the levels below have equal verbose forms, then so does one level more. -/
theorem Canonical.equal_expandLevel {v w : Json} (hv : v.Distinct) (hw : w.Distinct)
    (spelled : SpelledLevel s below d v w) :
    Equal (expandLevel s inner d v) (expandLevel s inner d w) := by
  cases spelled with
  | equal equal => exact respects.equal_level formed ⟨hv, hw, equal⟩
  | item kind byName listed spells spells' =>
    rw [expandLevel_of_spellsItem formed kind byName listed spells,
      expandLevel_of_spellsItem formed kind byName listed spells']
    exact .refl (.str _)
  | members fields shows shows' related =>
    exact canonical.equal_members formed unnumbered fields hv hw shows shows' related
  | places kind related =>
    simp only [expandLevel, kind]
    exact Json.Equal.arr_iff.mpr (canonical.equal_places settled (fun _ => hv.of_mem_arr)
      (fun _ => hw.of_mem_arr) related)
  | elements kind vtype related =>
    simp only [expandLevel, kind, vtype]
    exact canonical.equal_map (Schema.denotes_of_bind vtype) (fun _ => hv.of_mem_arr)
      (fun _ => hw.of_mem_arr) related
  | entries kind vtype related =>
    simp only [expandLevel, kind, vtype]
    exact canonical.equal_entries (Schema.denotes_of_bind vtype) hv hw related

end Level

/-- Expansion makes the same of instances that differ in spelling, however many levels of them. -/
theorem canonical_expandLevels {s : Schema} (built : s.Built)
    (unnumbered : ∀ d ∈ s.types, d.Unnumbered) (levels : Nat) :
    Canonical s (Spelled s levels) (expandLevels s levels) := by
  induction levels with
  | zero => exact ⟨fun _ _ _ equal => equal, fun _ _ _ _ hv hw equal => ⟨hv, hw, equal⟩⟩
  | succ levels ih =>
    refine ⟨fun _ _ _ equal => .equal equal, fun t denoted v w hv hw spelled => ?_⟩
    exact ih.equal_expandLevel (respects_expandLevels built levels)
      (settled_expandLevels built levels) (built.wellFormed_of_denotes denoted)
      (built.unnumbered_of_denotes unnumbered denoted) hv hw
      spelled

end Expansion

namespace Schema

open Expansion Validation

/-- Instances that differ in spelling have equal verbose forms and are accepted alike, if no field
is named like an integer. -/
theorem Built.expand_spelled {s : Schema} (built : s.Built)
    (unnumbered : ∀ d ∈ s.types, d.Unnumbered) {name : String} {d : TypeDefinition}
    (found : s.lookup? name = some d) {v w : Json} (hv : v.Distinct) (hw : w.Distinct)
    (spelled : Spelled s (s.limits.maxDepth + 1) d v w) :
    ∃ a b, s.expand name v = .ok a ∧ s.expand name w = .ok b ∧ (a == b) = true ∧
      s.isValid name v = s.isValid name w := by
  have denoted : s.Denotes d := Or.inl ⟨name, found⟩
  have equal : Equal (d.expand s v) (d.expand s w) :=
    (canonical_expandLevels built unnumbered _).verbose d denoted v w hv hw spelled
  refine ⟨d.expand s v, d.expand s w, ?_, ?_, equal.same, built.isValid_eq_of_expand found equal⟩
  · simp only [expand, found]
  · simp only [expand, found]

def cycle : Field where
  id := 3
  name := "cycle"
  typeRef := "State"
  options := { maxc := some 0 }
  description := ""

def room : TypeDefinition where
  name := "Room"
  options := {}
  description := ""
  kind := .record [.new 1 "name" "String", .new 2 "lamps" "Panel", cycle]

def rooms : Schema where
  info := {}
  types := [state, panel, room]
  limits := {}
  extensions := []
  fieldTypes := []
  patterns := []

theorem rooms_built : rooms.Built := ⟨by decide, .entered, rfl⟩

theorem rooms_unnumbered : ∀ d ∈ rooms.types, d.Unnumbered := by
  unfold TypeDefinition.Unnumbered
  decide

/-- A room by its values in order, and the same room by names and ids, each of its states in the
other spelling. -/
def hall : Json := .arr [.str "hall", .obj [("desk", .int 1)], .arr [.int 1, .str "off"]]

def numberedHall : Json :=
  .obj [("+3", .arr [.str "on", .int 2]), ("01", .str "hall"),
    ("lamps", .obj [("desk", .str "on")])]

theorem distinct_hall : hall.Distinct ∧ numberedHall.Distinct := by
  have desk : ∀ state : Json, state.Distinct → (Json.obj [("desk", state)]).Distinct :=
    fun state distinct => .obj (List.nodup_singleton _) (by simpa using distinct)
  constructor
  · refine .arr (List.forall_mem_cons.mpr ⟨.str _, List.forall_mem_cons.mpr ⟨desk _ (.int 1), ?_⟩⟩)
    exact List.forall_mem_singleton.mpr (.arr (by simp [Json.Distinct.int, Json.Distinct.str]))
  · refine .obj (by decide) (List.forall_mem_cons.mpr ⟨.arr ?_, ?_⟩)
    · simp [Json.Distinct.int, Json.Distinct.str]
    · exact List.forall_mem_cons.mpr ⟨.str _, List.forall_mem_singleton.mpr (desk _ (.str _))⟩

theorem spelled_states (levels : Nat) :
    Spelled rooms (levels + 1) state (.int 1) (.str "on") ∧
      Spelled rooms (levels + 1) state (.str "off") (.int 2) :=
  ⟨.item rfl rfl List.mem_cons_self (Or.inr rfl) (Or.inl rfl),
    .item rfl rfl (List.mem_cons_of_mem _ List.mem_cons_self) (Or.inl rfl) (Or.inr rfl)⟩

theorem spelled_hall : Spelled rooms (rooms.limits.maxDepth + 1) room hall numberedHall := by
  have unnumbered : room.Unnumbered := rooms_unnumbered room (by simp [rooms])
  have formed : room.WellFormed := rooms_built.wellFormed room (by simp [rooms])
  have lamps : Spelled rooms 128 panel (.obj [("desk", .int 1)]) (.obj [("desk", .str "on")]) :=
    .entries rfl (t := state) rfl (rel_of_forall₂ (.cons ⟨rfl, (spelled_states 126).1⟩ .nil))
  have named : ∀ f ∈ room.fields, room.Names f.name f := fun f hf => ⟨hf, Or.inr ⟨rfl, rfl⟩⟩
  have numbered : room.Names "01" (.new 1 "name" "String") ∧ room.Names "+3" cycle :=
    ⟨⟨.head _, Or.inl (by decide)⟩, ⟨.tail _ (.tail _ (.head _)), Or.inl (by decide)⟩⟩
  have mode : ∀ {key key' : String}, room.options.byId = true → key = key' := nofun
  refine .members (Or.inr (Or.inr rfl)) (.places rfl rfl (Nat.le_refl 3))
    (.object ((formed.keysApart_iff unnumbered).mp (formed.repeatsField_eq_false_iff.mp rfl))) ?_
  -- The members of the object in the order of the fields.
  have order : ([("01", .str "hall"), ("lamps", .obj [("desk", .str "on")])] ++
      [("+3", .arr [.str "on", .int 2])] : Dict Json).Perm _ := List.perm_append_comm
  refine rel_of_perm (rel_of_forall₂ ?_) order
  refine .cons ?_ (.cons ?_ (.cons ?_ .nil))
  · exact .field (named (.new 1 "name" "String") (.head _)) numbered.1 mode
      (.whole (t := .plain .string "String" {}) rfl (Or.inl rfl) (.equal rfl))
  · have hf : .new 2 "lamps" "Panel" ∈ room.fields := .tail _ (.head _)
    exact .field (named _ hf) (named _ hf) mode
      (.whole (t := panel) rfl (Or.inl rfl) lamps)
  · exact .field (named cycle (.tail _ (.tail _ (.head _)))) numbered.2 mode
      (.each (t := state) rfl rfl
        (.cons (spelled_states 127).1 (.cons (spelled_states 127).2 .nil)))

theorem expand_spelled_hall :
    rooms.Built ∧ (∀ d ∈ rooms.types, d.Unnumbered) ∧ rooms.lookup? "Room" = some room ∧
      hall.Distinct ∧ numberedHall.Distinct ∧
      Spelled rooms (rooms.limits.maxDepth + 1) room hall numberedHall ∧
      ∃ a b, rooms.expand "Room" hall = .ok a ∧ rooms.expand "Room" numberedHall = .ok b ∧
        (a == b) = true ∧ rooms.isValid "Room" hall = rooms.isValid "Room" numberedHall :=
  ⟨rooms_built, rooms_unnumbered, rfl, distinct_hall.1, distinct_hall.2, spelled_hall,
    rooms_built.expand_spelled rooms_unnumbered rfl distinct_hall.1 distinct_hall.2 spelled_hall⟩

def badge : TypeDefinition where
  name := "Badge"
  options := { maxv := some 1 }
  description := ""
  kind := .record [.new 1 "number" "Integer",
    { id := 2, name := "holder", typeRef := "String", options := { minc := some 0 },
      description := "" }]

def badges : Schema where
  info := {}
  types := [badge]
  limits := {}
  extensions := []
  fieldTypes := []
  patterns := []

/-- A null member of an object is kept and counted, and a null beyond the fields keeps an array
from being read; a null in the place of a field is neither. So an object and arrays that have the
same members but for nulls do not go together. -/
theorem expand_badge_nulls :
    badges.Built ∧ (∀ d ∈ badges.types, d.Unnumbered) ∧ badges.lookup? "Badge" = some badge ∧
      badge.options.byId = false ∧
      ([("number", .int 1), ("holder", .null)] : Dict Json).filter (fun p => !p.2.isNull) =
        keyed badge.fields false [.int 1] ∧
      (∃ a b, badges.expand "Badge" (.obj [("number", .int 1), ("holder", .null)]) = .ok a ∧
        badges.expand "Badge" (.arr [.int 1]) = .ok b ∧ (a == b) = false) ∧
      badges.isValid "Badge" (.obj [("number", .int 1), ("holder", .null)]) = false ∧
      badges.isValid "Badge" (.arr [.int 1]) = true ∧
      (∃ a b, badges.expand "Badge" (.arr [.int 1, .null, .null]) = .ok a ∧
        badges.expand "Badge" (.arr [.int 1]) = .ok b ∧ (a == b) = false) ∧
      badges.isValid "Badge" (.arr [.int 1, .null, .null]) = false := by
  have built : badges.Built := ⟨by decide, .entered, rfl⟩
  have unnumbered : ∀ d ∈ badges.types, d.Unnumbered := by
    unfold TypeDefinition.Unnumbered
    decide
  exact ⟨built, unnumbered, rfl, rfl, rfl, ⟨_, _, rfl, rfl, rfl⟩, by decide +kernel,
    by decide +kernel, ⟨_, _, rfl, rfl, rfl⟩, by decide +kernel⟩

end Schema

end Jadn
