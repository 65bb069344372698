import Jadn.Proofs.Expansion.Equality
import Jadn.Proofs.Validation.Alike

/-!
One level of expansion beside two ways to expand the levels below.

`Level` says what a level of expansion makes of a value as a function of the expander for the next
level. Verbose forms that differ only below have the same shape: the check of the level accepts
both, apart from equal elements, and goes on to corresponding parts of them. If the expanders agree
on whatever the check goes on to, the forms are equal, given that no member is left out of the
check.
-/

set_option autoImplicit false

namespace Jadn.Validation

/-- A value is accepted at a node, whatever is made of what its check goes on to. -/
def Fits (s : Schema) (d : TypeDefinition) (w : Json) : Prop :=
  checkLevel s (fun _ _ => .ok ()) d w = .ok ()

/-- A value is accepted if it fits and what its check goes on to is accepted. -/
theorem checkLevel_eq_ok_iff {s : Schema} {inner : Checker} {d : TypeDefinition} {w : Json} :
    checkLevel s inner d w = .ok () ↔
      Fits s d w ∧ ∀ t v, Step s (d, w) (t, v) → inner t v = .ok () := by
  constructor
  · intro accepted
    have further : ∀ t v, Step s (d, w) (t, v) → inner t v = .ok () :=
      fun _ _ => accepted_of_step accepted
    exact ⟨(checkLevel_congr further).symm.trans accepted, further⟩
  · rintro ⟨fits, further⟩
    exact (checkLevel_congr further).trans fits

end Jadn.Validation

namespace Jadn.Expansion

open Validation

section Places

variable {expand expand' : Field → Json → Json}

theorem mem_zip_expandPlaces_iff {fields : List Field} {vs : List Json} {f : Field} {v : Json} :
    (f, v) ∈ fields.zip (expandPlaces expand fields vs) ↔
      ∃ x, (f, x) ∈ fields.zip vs ∧ v = if x.isNull then x else expand f x := by
  induction fields generalizing vs with
  | nil => simp
  | cons g fields ih =>
    cases vs with
    | nil => simp [expandPlaces]
    | cons y vs =>
      simp only [expandPlaces, List.zip_cons_cons, List.mem_cons, Prod.mk.injEq, ih]
      constructor
      · rintro (⟨rfl, rfl⟩ | ⟨x, placed, rfl⟩)
        · exact ⟨y, .inl ⟨rfl, rfl⟩, rfl⟩
        · exact ⟨x, .inr placed, rfl⟩
      · rintro ⟨x, ⟨rfl, rfl⟩ | placed, rfl⟩
        · exact .inl ⟨rfl, rfl⟩
        · exact .inr ⟨x, placed, rfl⟩

theorem expandPlaces_congr {fields : List Field} {vs : List Json}
    (same : ∀ f x, (f, x) ∈ fields.zip vs → x.isNull = false → expand f x = expand' f x) :
    expandPlaces expand fields vs = expandPlaces expand' fields vs := by
  induction fields generalizing vs with
  | nil => simp [expandPlaces]
  | cons f fields ih =>
    cases vs with
    | nil => simp [expandPlaces]
    | cons v vs =>
      have rest := ih fun g x placed => same g x (List.mem_cons_of_mem _ placed)
      have first := same f v List.mem_cons_self
      simp only [expandPlaces, rest]
      cases null : v.isNull with
      | true => rfl
      | false => simp only [first null]

end Places

/-- What a level of expansion makes of a value, given the expander for the next level. -/
inductive Level (s : Schema) (d : TypeDefinition) : (Expander → Json) → Prop where
  | fixed (w : Json) : Level s d fun _ => w
  | members {ms : Dict Json}
      (kind : d.baseType = .choice ∨ d.baseType = .map ∨ d.baseType = .record)
      (apart : d.KeysApart ms.keys) :
      Level s d fun inner => .obj (ms.map (expandMember d (expandField s inner d)))
  | places {vs : List Json} (kind : d.baseType = .array) :
      Level s d fun inner => .arr (expandPlaces (expandField s inner d) d.fields vs)
  | elements {t : TypeDefinition} {vs : List Json} (kind : d.baseType = .arrayOf)
      (type : d.options.vtype.bind s.lookup? = some t) :
      Level s d fun inner => .arr (vs.map (inner t))
  | entries {t : TypeDefinition} {ms : Dict Json} (kind : d.baseType = .mapOf)
      (type : d.options.vtype.bind s.lookup? = some t) :
      Level s d fun inner => .obj (ms.map fun (key, v) => (key, inner t v))

section Levels

variable {s : Schema} {d : TypeDefinition}

theorem level_expandObject (formed : d.WellFormed)
    (kind : d.baseType = .choice ∨ d.baseType = .map ∨ d.baseType = .record) (ms : Dict Json) :
    Level s d fun inner => expandLevel s inner d (.obj ms) := by
  simp only [expandLevel_of_members kind, expandObject]
  cases twice : repeatsField d ms with
  | true => exact .fixed _
  | false => exact .members kind (formed.repeatsField_eq_false_iff.mp twice)

theorem level_arr (formed : d.WellFormed) (vs : List Json) :
    Level s d fun inner => expandLevel s inner d (.arr vs) := by
  cases own : d.kind with
  | array fields =>
    have fields_eq : d.fields = fields := congrArg Kind.fields own
    simp only [expandLevel, own, ← fields_eq]
    exact .places (congrArg Kind.baseType own)
  | arrayOf =>
    simp only [expandLevel, own]
    cases type : elementType? s d with
    | none => exact .fixed _
    | some t => exact .elements (congrArg Kind.baseType own) type
  | record fields =>
    have fields_eq : d.fields = fields := congrArg Kind.fields own
    simp only [expandLevel, own, ← fields_eq]
    by_cases kept : (d.options.byId || d.fields.length < vs.length) = true
    · simp only [kept, if_true]
      exact .fixed _
    · have byName : d.options.byId = false := by simp_all
      simp only [kept, expandValues_eq_keyed formed byName, Bool.false_eq_true, if_false]
      exact .members (.inr (.inr (congrArg Kind.baseType own))) (keysApart_keyed formed vs)
  | _ =>
    simp only [expandLevel, own]
    exact .fixed _

theorem level_expandLevel (formed : d.WellFormed) (v : Json) :
    Level s d fun inner => expandLevel s inner d v := by
  cases v with
  | arr vs => exact level_arr formed vs
  | obj ms =>
    cases own : d.kind with
    | choice fields => exact level_expandObject formed (.inl (congrArg Kind.baseType own)) ms
    | map fields => exact level_expandObject formed (.inr (.inl (congrArg Kind.baseType own))) ms
    | record fields => exact level_expandObject formed (.inr (.inr (congrArg Kind.baseType own))) ms
    | mapOf =>
      simp only [expandLevel, own]
      cases type : elementType? s d with
      | none => exact .fixed _
      | some t => exact .entries (congrArg Kind.baseType own) type
    | _ =>
      simp only [expandLevel, own]
      exact .fixed _
  | _ =>
    -- Without parts there is nothing to expand further.
    cases own : d.kind <;> simp only [expandLevel, own] <;> exact .fixed _

end Levels

section Parts

variable {s : Schema} {d : TypeDefinition} {expand : Field → Json → Json}

theorem keysApart_map (formed : d.WellFormed) {ms : Dict Json} (apart : d.KeysApart ms.keys) :
    d.KeysApart (Dict.keys (ms.map (expandMember d expand))) := by
  have single := formed.repeatsField_eq_false_iff.mpr apart
  exact formed.repeatsField_eq_false_iff.mp ((repeatsField_map formed expand ms).trans single)

/-- A member under a key that denotes a field is the expanded value of that field, under the same
key however values are expanded. -/
theorem expandMember_of_denotes (formed : d.WellFormed) {m : String × Json} {key : String}
    {f : Field} {v : Json} (made : expandMember d expand m = (key, v))
    (denoted : d.fieldOfKey? key = some f) :
    v = expand f m.2 ∧ ∀ expand', expandMember d expand' m = (key, expand' f m.2) := by
  have own : d.fieldOfKey? m.1 = some f := by
    rw [← fieldOfKey?_expandMember formed expand m, made]
    exact denoted
  obtain ⟨k, x⟩ := m
  simp only [expandMember, show d.fieldOfKey? k = some f from own, Prod.mk.injEq] at made ⊢
  exact ⟨made.2.symm, fun _ => ⟨made.1, trivial⟩⟩

theorem kind_of_fills {w : Json} {f : Field} {v : Json} (filled : Fills d w f v) :
    d.baseType = .choice ∨ d.baseType = .map ∨ d.baseType = .record ∨ d.baseType = .array := by
  cases filled with
  | alternative kind => exact .inl kind
  | place kind => exact .inr (.inr (.inr kind))
  | member kind => exact kind.elim (fun map => .inr (.inl map)) fun record => .inr (.inr (.inl record))

theorem mem_entries_iff {k : TypeDefinition} {expand : Json → Json} {ms : Dict Json}
    {e : Json × Json} :
    (∃ es, entries d k (.obj (ms.map fun (key, v) => (key, expand v))) = .ok es ∧ e ∈ es) ↔
      ∃ p ∈ ms, (valueOfKey k p.1, expand p.2) = e := by
  simp [entries]

theorem step_of_mem {k t : TypeDefinition} {inner : Expander} (kind : d.baseType = .mapOf)
    (keys : d.options.ktype.bind s.lookup? = some k)
    (type : d.options.vtype.bind s.lookup? = some t) {ms : Dict Json} {p : String × Json}
    (member : p ∈ ms) :
    Step s (d, .obj (ms.map fun (key, v) => (key, inner t v))) (k, valueOfKey k p.1) ∧
      Step s (d, .obj (ms.map fun (key, v) => (key, inner t v))) (t, inner t p.2) := by
  obtain ⟨es, read, listed⟩ := (mem_entries_iff (d := d) (k := k)).mpr ⟨p, member, rfl⟩
  exact ⟨.key kind keys read listed, .entry kind keys type read listed⟩

theorem Level.of_arrayOf {F : Expander → Json} (level : Level s d F)
    (kind : d.baseType = .arrayOf) :
    (∃ w, F = fun _ => w) ∨ ∃ t, ∃ vs : List Json, d.options.vtype.bind s.lookup? = some t ∧
      F = fun inner => .arr (vs.map (inner t)) := by
  cases level with
  | fixed w => exact .inl ⟨w, rfl⟩
  | elements _ type => exact .inr ⟨_, _, type, rfl⟩
  | members other | places other | entries other => simp [kind] at other

theorem Level.of_mapOf {F : Expander → Json} (level : Level s d F) (kind : d.baseType = .mapOf) :
    (∃ w, F = fun _ => w) ∨ ∃ t, ∃ ms : Dict Json, d.options.vtype.bind s.lookup? = some t ∧
      F = fun inner => .obj (ms.map fun (key, v) => (key, inner t v)) := by
  cases level with
  | fixed w => exact .inl ⟨w, rfl⟩
  | entries _ type => exact .inr ⟨_, _, type, rfl⟩
  | members other | places other | elements other => simp [kind] at other

end Parts

section Shape

variable {s : Schema} {d : TypeDefinition} {inner inner' : Expander} {F : Expander → Json}
  (settled : Settled s inner) (settled' : Settled s inner')
include settled settled'

omit settled' in
theorem checkField_expandField {f : Field} {v : Json}
    (taken : checkField s (fun _ _ => .ok ()) d f (expandField s inner d f v) = .ok ()) :
    checkField s (fun _ _ => .ok ()) d f (expandField s inner' d f v) = .ok () := by
  obtain ⟨t, type, ⟨once, -⟩ | ⟨repeated, values, made, repeats⟩⟩ := checkField_eq_ok_iff.mp taken
  · exact checkField_eq_ok_iff.mpr ⟨t, type, .inl ⟨once, rfl⟩⟩
  · obtain ⟨xs, rfl⟩ := settled.expandField_arr made
    rw [expandField_each type repeated] at made ⊢
    obtain rfl := Json.arr.inj made
    apply checkField_eq_ok_iff.mpr
    refine ⟨t, type, .inr ⟨repeated, _, rfl, ?_⟩⟩
    exact ⟨by simpa using repeats.atLeast, by simpa using repeats.atMost, fun _ _ => rfl⟩

theorem fareAt_expandField (f : Field) (v : Json) :
    FareAt s (fun _ _ => .ok ()) d f (expandField s inner d f v) (expandField s inner' d f v) :=
  ⟨by rw [settled.expandField_isNull, settled'.expandField_isNull],
    checkField_expandField settled, checkField_expandField settled'⟩

theorem membersFare_expandMember (formed : d.WellFormed) (ms : Dict Json) :
    MembersFare s (fun _ _ => .ok ()) d (ms.map (expandMember d (expandField s inner d)))
      (ms.map (expandMember d (expandField s inner' d))) := by
  unfold MembersFare
  rw [List.forall₂_map_left_iff, List.forall₂_map_right_iff, List.forall₂_same]
  rintro ⟨key, v⟩ -
  have own := fieldOfKey?_expandMember formed (expandField s inner d) (key, v)
  unfold TypeDefinition.Denotes
  rw [own]
  cases found : d.fieldOfKey? key with
  | none => simp [expandMember, found]
  | some f =>
    obtain ⟨null, fares⟩ := fareAt_expandField (d := d) settled settled' f v
    simp only [expandMember, found]
    refine ⟨trivial, null, ?_⟩
    rintro _ ⟨⟩
    exact fares

/-- A value that fits fits however it is expanded further in, if its elements stay distinct. -/
theorem Level.fits (level : Level s d F) (formed : d.WellFormed) (fits : Fits s d (F inner))
    (distinct : ∀ ws, F inner' = .arr ws → d.baseType = .arrayOf → d.options.isUnique = true →
      repeated? [] ws = none) : Fits s d (F inner') := by
  cases level with
  | fixed w => exact fits
  | members kind apart =>
    exact (membersFare_expandMember settled settled' formed _).accepted formed kind fits
  | @places vs kind =>
    have same : InPlace d.fields (fun _ v w => v = w) vs vs :=
      ⟨rfl, fun _ _ _ _ _ left right => Option.some.inj (left.symm.trans right)⟩
    refine InPlace.accepted formed (.inl kind) (same.expandPlaces ?_ ?_ ?_) fits
    · rintro _ v _ rfl
      rfl
    · rintro _ v _ rfl _
      exact ⟨rfl, Iff.rfl⟩
    · rintro f v _ rfl
      exact fareAt_expandField settled settled' f v
  | elements kind type =>
    unfold Fits at fits ⊢
    rw [checkLevel_of_arrayOf kind, checkArrayOf_eq_ok_iff] at fits ⊢
    obtain ⟨t, found, _, ⟨⟩, admits⟩ := fits
    exact ⟨t, found, _, rfl, by simpa using admits.limited, fun _ _ => rfl, distinct _ rfl kind,
      by simpa using admits.atLeast, by simpa using admits.atMost⟩
  | entries kind type =>
    unfold Fits at fits ⊢
    rw [checkLevel_of_mapOf kind, checkMapOf_eq_ok_iff] at fits ⊢
    obtain ⟨k, keys, t, found, _, ⟨⟩, admits⟩ := fits
    exact ⟨k, keys, t, found, _, rfl, by simpa using admits.limited, fun _ _ => ⟨rfl, rfl⟩,
      by simpa using admits.atLeast, by simpa using admits.atMost⟩

theorem fills_members (formed : d.WellFormed)
    (kind : d.baseType = .choice ∨ d.baseType = .map ∨ d.baseType = .record) {ms : Dict Json}
    (apart : d.KeysApart ms.keys) {f : Field} {v' : Json}
    (filled : Fills d (.obj (ms.map (expandMember d (expandField s inner' d)))) f v') :
    ∃ x, v' = expandField s inner' d f x ∧
      Fills d (.obj (ms.map (expandMember d (expandField s inner d)))) f
        (expandField s inner d f x) := by
  generalize made : Json.obj (ms.map (expandMember d (expandField s inner' d))) = w' at filled
  cases filled with
  | @alternative key _ _ choice denoted =>
    obtain ⟨m, rfl, here⟩ := List.map_eq_singleton_iff.mp (Json.obj.inj made)
    obtain ⟨rfl, other⟩ := expandMember_of_denotes formed here denoted
    refine ⟨m.2, rfl, ?_⟩
    simp only [List.map_cons, List.map_nil, other]
    exact .alternative choice denoted
  | place array => simp [array] at kind
  | member structured read listed given =>
    subst made
    cases read
    obtain ⟨key, member, some, printed⟩ :=
      (present?_lookup_eq_some_iff formed (keysApart_map formed apart) listed).mp given
    obtain ⟨m, hm, here⟩ := List.mem_map.mp member
    obtain ⟨rfl, other⟩ := expandMember_of_denotes formed here (formed.denotes_of_prints printed)
    refine ⟨m.2, rfl, .member structured rfl listed
      ((present?_lookup_eq_some_iff formed (keysApart_map formed apart) listed).mpr
        ⟨key, List.mem_map.mpr ⟨m, hm, other _⟩, ?_, printed⟩)⟩
    rw [settled.expandField_isNull, ← settled'.expandField_isNull d f m.2]
    exact some

omit settled' in
theorem fills_places (kind : d.baseType = .array) {vs : List Json} {f : Field} {v' : Json}
    (filled : Fills d (.arr (expandPlaces (expandField s inner' d) d.fields vs)) f v') :
    ∃ x, v' = expandField s inner' d f x ∧
      Fills d (.arr (expandPlaces (expandField s inner d) d.fields vs)) f
        (expandField s inner d f x) := by
  generalize made : Json.arr (expandPlaces (expandField s inner' d) d.fields vs) = w' at filled
  cases filled with
  | alternative => cases made
  | member structured => simp [kind] at structured
  | place _ read placed given =>
    subst made
    obtain ⟨same, others⟩ := placesOf_arr read
    cases same
    obtain ⟨x, here, rfl⟩ := mem_zip_expandPlaces_iff.mp placed
    cases null : x.isNull with
    | true => simp [null] at given
    | false =>
      simp only [null, Bool.false_eq_true, if_false] at given ⊢
      refine ⟨x, rfl, .place kind (others _) (mem_zip_expandPlaces_iff.mpr ⟨x, here, ?_⟩) ?_⟩
      · simp [null]
      · rw [settled.expandField_isNull, null]

theorem Level.fills (level : Level s d F) (formed : d.WellFormed) {f : Field} {v' : Json}
    (filled : Fills d (F inner') f v') :
    ∃ v, Fills d (F inner) f v ∧
      (v = v' ∨ ∃ x, v = expandField s inner d f x ∧ v' = expandField s inner' d f x) := by
  have fields := kind_of_fills filled
  cases level with
  | fixed w => exact ⟨v', filled, .inl rfl⟩
  | members kind apart =>
    obtain ⟨x, rfl, other⟩ := fills_members settled settled' formed kind apart filled
    exact ⟨_, other, .inr ⟨x, rfl, rfl⟩⟩
  | places kind =>
    obtain ⟨x, rfl, other⟩ := fills_places settled kind filled
    exact ⟨_, other, .inr ⟨x, rfl, rfl⟩⟩
  | elements kind | entries kind => simp [kind] at fields

/-- What the check of one form goes on to corresponds to what that of the other goes on to. -/
theorem Level.step (level : Level s d F) (formed : d.WellFormed) {t : TypeDefinition} {v' : Json}
    (step : Step s (d, F inner') (t, v')) :
    ∃ v, Step s (d, F inner) (t, v) ∧ (v = v' ∨ ∃ x, v = inner t x ∧ v' = inner' t x) := by
  generalize made : F inner' = w' at step
  cases step with
  | element kind type member =>
    rcases level.of_arrayOf kind with ⟨w, rfl⟩ | ⟨u, vs, found, rfl⟩
    · cases made
      exact ⟨v', .element kind type member, .inl rfl⟩
    · cases made
      obtain rfl := Option.some.inj (type.symm.trans found)
      obtain ⟨x, hx, rfl⟩ := List.mem_map.mp member
      exact ⟨inner t x, .element kind type (List.mem_map_of_mem hx), .inr ⟨x, rfl, rfl⟩⟩
  | key kind keys read member =>
    rcases level.of_mapOf kind with ⟨w, rfl⟩ | ⟨u, ms, type, rfl⟩
    · subst made
      exact ⟨_, .key kind keys read member, .inl rfl⟩
    · subst made
      obtain ⟨p, hp, rfl⟩ := mem_entries_iff.mp ⟨_, read, member⟩
      exact ⟨valueOfKey t p.1, (step_of_mem kind keys type hp).1, .inl rfl⟩
  | entry kind keys type read member =>
    rcases level.of_mapOf kind with ⟨w, rfl⟩ | ⟨u, ms, found, rfl⟩
    · subst made
      exact ⟨_, .entry kind keys type read member, .inl rfl⟩
    · subst made
      obtain rfl := Option.some.inj (type.symm.trans found)
      obtain ⟨p, hp, rfl⟩ := mem_entries_iff.mp ⟨_, read, member⟩
      exact ⟨inner t p.2, (step_of_mem kind keys type hp).2, .inr ⟨p.2, rfl, rfl⟩⟩
  | single filled type once =>
    subst made
    obtain ⟨v, other, rfl | ⟨x, rfl, rfl⟩⟩ := level.fills settled settled' formed filled
    · exact ⟨v, .single other type once, .inl rfl⟩
    · rw [expandField_whole type (.inl once)] at other ⊢
      exact ⟨inner t x, .single other type once, .inr ⟨x, rfl, rfl⟩⟩
  | occurrence filled type repeated member =>
    subst made
    obtain ⟨v, other, same | ⟨x, rfl, here⟩⟩ := level.fills settled settled' formed filled
    · subst same
      exact ⟨v', .occurrence other type repeated member, .inl rfl⟩
    · obtain ⟨xs, rfl⟩ := settled'.expandField_arr here.symm
      rw [expandField_each type repeated] at other here
      cases here
      obtain ⟨y, hy, rfl⟩ := List.mem_map.mp member
      exact ⟨inner t y, .occurrence other type repeated (List.mem_map_of_mem hy),
        .inr ⟨y, rfl, rfl⟩⟩

end Shape

section Agreement

variable {s : Schema} {d : TypeDefinition} {inner inner' : Expander} {F : Expander → Json}
  (settled : Settled s inner)
include settled

theorem expandField_eq_of_steps {w : Json} (fits : Fits s d w) {f : Field} {x : Json}
    (filled : Fills d w f (expandField s inner d f x))
    (same : ∀ t y, Step s (d, w) (t, inner t y) → inner' t y = inner t y) :
    expandField s inner' d f x = expandField s inner d f x := by
  cases type : s.fieldType? d.name f with
  | none => simp only [expandField, type]
  | some t =>
    rcases fieldType_of_fills fits filled type with ⟨once, -⟩ | ⟨repeated, values, made, -⟩
    · rw [expandField_whole type (.inl once)] at filled
      rw [expandField_whole type (.inl once), expandField_whole type (.inl once)]
      exact same t x (.single filled type once)
    · obtain ⟨xs, rfl⟩ := settled.expandField_arr made
      rw [expandField_each type repeated] at filled
      rw [expandField_each type repeated, expandField_each type repeated]
      apply congrArg Json.arr
      apply List.map_congr_left
      intro y hy
      exact same t y (.occurrence filled type repeated (List.mem_map_of_mem hy))

omit settled in
theorem eq_singleton_of_fits (kind : d.baseType = .choice) {ms : Dict Json} (fits : Fits s d (.obj ms))
    {m : String × Json} (member : m ∈ ms) : ms = [m] := by
  unfold Fits at fits
  rw [checkLevel_of_choice kind] at fits
  cases ms with
  | nil => cases member
  | cons n rest =>
    cases rest with
    | nil => rw [List.mem_singleton.mp member]
    | cons => cases fits

theorem fills_of_member (formed : d.WellFormed) {ms : Dict Json}
    (kind : d.baseType = .choice ∨ d.baseType = .map ∨ d.baseType = .record)
    (apart : d.KeysApart ms.keys)
    (fits : Fits s d (.obj (ms.map (expandMember d (expandField s inner d)))))
    (spelled : (d.baseType = .map ∨ d.baseType = .record) → d.options.byId = true →
      d.PrintsKeys (ms.map (expandMember d (expandField s inner d))))
    {key : String} {x : Json} (member : (key, x) ∈ ms) {f : Field}
    (denoted : d.fieldOfKey? key = some f) (given : x.isNull = false) :
    Fills d (.obj (ms.map (expandMember d (expandField s inner d)))) f
      (expandField s inner d f x) := by
  have made_given : (expandField s inner d f x).isNull = false := by
    rw [settled.expandField_isNull, given]
  have own : (if d.options.byId then key else f.name, expandField s inner d f x) ∈
      ms.map (expandMember d (expandField s inner d)) :=
    List.mem_map.mpr ⟨_, member, by simp only [expandMember, denoted]⟩
  have key_denoted : d.fieldOfKey? (if d.options.byId then key else f.name) = some f := by
    have kept := fieldOfKey?_expandMember formed (expandField s inner d) (key, x)
    simpa only [expandMember, denoted] using kept
  rcases kind with choice | structured
  · rw [eq_singleton_of_fits choice fits own]
    exact .alternative choice key_denoted
  · have printed : d.Prints (if d.options.byId then key else f.name) f := by
      cases mode : d.options.byId with
      | true =>
        rw [mode] at own key_denoted
        exact spelled structured mode _ _ f own made_given key_denoted
      | false =>
        exact ⟨TypeDefinition.mem_fields_of_fieldOfKey? denoted, by simp [verboseKey, mode]⟩
    exact .member structured rfl printed.1
      ((present?_lookup_eq_some_iff formed (keysApart_map formed apart) printed.1).mpr
        ⟨_, own, made_given, printed⟩)

/-- Expanders that agree on what the check of a form goes on to make the same form, if members are
spelled as their keys are printed. -/
theorem Level.eq_of_steps (settled' : Settled s inner') (level : Level s d F)
    (formed : d.WellFormed) (fits : Fits s d (F inner))
    (spelled : ∀ ms, F inner = .obj ms → (d.baseType = .map ∨ d.baseType = .record) →
      d.options.byId = true → d.PrintsKeys ms)
    (same : ∀ t x, Step s (d, F inner) (t, inner t x) → inner' t x = inner t x) :
    F inner' = F inner := by
  cases level with
  | fixed w => rfl
  | @members ms kind apart =>
    apply congrArg Json.obj
    apply List.map_congr_left
    rintro ⟨key, x⟩ member
    cases denoted : d.fieldOfKey? key with
    | none => simp only [expandMember, denoted]
    | some f =>
      have value : expandField s inner' d f x = expandField s inner d f x := by
        cases null : x.isNull with
        | true =>
          rw [settled'.expandField_of_isNull null, settled.expandField_of_isNull null]
        | false =>
          exact expandField_eq_of_steps settled fits (fills_of_member settled formed kind apart
            fits (spelled _ rfl) member denoted null) same
      simp only [expandMember, denoted, value]
  | @places vs kind =>
    apply congrArg Json.arr
    apply expandPlaces_congr
    intro f x placed null
    refine expandField_eq_of_steps settled fits ?_ same
    unfold Fits at fits
    rw [checkLevel_of_array kind] at fits
    obtain ⟨values, read, -⟩ := checkArray_eq_ok_iff.mp fits
    refine .place kind ((placesOf_arr read).2 _) (mem_zip_expandPlaces_iff.mpr ⟨x, placed, ?_⟩) ?_
    · simp [null]
    · rw [settled.expandField_isNull, null]
  | elements kind type =>
    apply congrArg Json.arr
    apply List.map_congr_left
    intro x hx
    exact same _ x (.element kind type (List.mem_map_of_mem hx))
  | entries kind type =>
    have mapOf := fits
    unfold Fits at mapOf
    rw [checkLevel_of_mapOf kind] at mapOf
    obtain ⟨k, keys, -⟩ := checkMapOf_eq_ok_iff.mp mapOf
    apply congrArg Json.obj
    apply List.map_congr_left
    intro p member
    exact congrArg (Prod.mk p.1) (same _ p.2 (step_of_mem kind keys type member).2)

end Agreement

end Jadn.Expansion
