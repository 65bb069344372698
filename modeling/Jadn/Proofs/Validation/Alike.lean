import Jadn.Proofs.Validation.Collections
import Jadn.Proofs.Validation.Equality

/-!
Instances on which the verdict is the same.

Two values are alike for a type if they are accepted alike, however many levels of them are expanded
before and however many levels are checked. What stands in a field can be replaced by what is alike:
objects with alike members and arrays with alike values in their places are alike again, since
expansion and checks look into the value of a field in no other way.
-/

set_option autoImplicit false

namespace Jadn.Validation

open Expansion

/-- The verdict on two values is the same, however many levels of them are expanded and checked. -/
structure Alike (s : Schema) (d : TypeDefinition) (v w : Json) : Prop where
  isNull : v.isNull = w.isNull
  agree : ∀ levels depth, checkLevels s levels d (expandLevels s depth d v) = .ok () ↔
    checkLevels s levels d (expandLevels s depth d w) = .ok ()

structure AlikeAt (s : Schema) (d : TypeDefinition) (f : Field) (v w : Json) : Prop where
  isNull : v.isNull = w.isNull
  agree : ∀ levels depth,
    checkField s (checkLevels s levels) d f (expandField s (expandLevels s depth) d f v) = .ok () ↔
    checkField s (checkLevels s levels) d f (expandField s (expandLevels s depth) d f w) = .ok ()

inductive InField (f : Field) (x y : Json) : Json → Json → Prop where
  | whole (single : f.isRepeated = false ∨ x.arr? = none ∧ y.arr? = none) : InField f x y x y
  | occurrence (repeated : f.isRepeated = true) (before after : List Json) :
      InField f x y (.arr (before ++ x :: after)) (.arr (before ++ y :: after))

/-- The value of a field in an instance: under a key that denotes the field, or at its place. -/
inductive InNode (d : TypeDefinition) (f : Field) (v w : Json) : Json → Json → Prop where
  | member {key : String} (kind : d.baseType = .choice ∨ d.baseType = .map ∨ d.baseType = .record)
      (denoted : d.Denotes key f) (before after : Dict Json) :
      InNode d f v w (.obj (before ++ (key, v) :: after)) (.obj (before ++ (key, w) :: after))
  | place {before after : List Json} (kind : d.baseType = .array ∨ d.baseType = .record)
      (field : d.fields[before.length]? = some f) :
      InNode d f v w (.arr (before ++ v :: after)) (.arr (before ++ w :: after))

section Fields

variable {s : Schema} {d t : TypeDefinition} {f : Field}

/-- Values are alike if one level of each is accepted as one of the other, expanded or not. -/
theorem Alike.of_levels {v w : Json} (isNull : v.isNull = w.isNull)
    (plain : ∀ levels, checkLevel s (checkLevels s levels) d v = .ok () ↔
      checkLevel s (checkLevels s levels) d w = .ok ())
    (expanded : ∀ levels depth,
      checkLevel s (checkLevels s levels) d (expandLevel s (expandLevels s depth) d v) = .ok () ↔
        checkLevel s (checkLevels s levels) d (expandLevel s (expandLevels s depth) d w) =
          .ok ()) : Alike s d v w := by
  refine ⟨isNull, fun levels depth => ?_⟩
  cases levels with
  | zero => simp only [checkLevels, reduceCtorEq]
  | succ levels =>
    cases depth with
    | zero => exact plain levels
    | succ depth => exact expanded levels depth

theorem AlikeAt.refl (v : Json) : AlikeAt s d f v v := ⟨rfl, fun _ _ => Iff.rfl⟩

theorem AlikeAt.symm {v w : Json} (alike : AlikeAt s d f v w) : AlikeAt s d f w v :=
  ⟨alike.isNull.symm, fun levels depth => (alike.agree levels depth).symm⟩

theorem expandField_zero (v : Json) : expandField s (expandLevels s 0) d f v = v := by
  unfold expandField
  split
  · rfl
  · split
    · split
      · simp [expandLevels]
      · rfl
    · rfl

theorem alikeAt_of_alike (built : s.Built) (type : s.fieldType? d.name f = some t) {x y v w : Json}
    (alike : Alike s t x y) (placed : InField f x y v w) : AlikeAt s d f v w := by
  cases placed with
  | whole single =>
    refine ⟨alike.isNull, fun levels depth => ?_⟩
    have settled := settled_expandLevels built depth
    rw [expandField_whole type (single.imp_right And.left),
      expandField_whole type (single.imp_right And.right)]
    have notArray : ∀ z : Json, z.arr? = none → ∀ zs, expandLevels s depth t z ≠ .arr zs := by
      intro z none zs made
      obtain ⟨ys, rfl⟩ := settled.arr t z zs made
      cases none
    simp only [checkField_eq_ok_iff, type, Option.some.injEq, exists_eq_left']
    refine or_congr (and_congr_right fun _ => alike.agree levels depth)
      (and_congr_right fun repeated => ?_)
    rcases single with once | ⟨left, right⟩
    · rw [repeated] at once
      cases once
    · constructor
      · rintro ⟨values, same, -⟩
        exact absurd same (notArray x left values)
      · rintro ⟨values, same, -⟩
        exact absurd same (notArray y right values)
  | occurrence repeated before after =>
    refine ⟨rfl, fun levels depth => ?_⟩
    rw [expandField_each type repeated, expandField_each type repeated]
    simp only [checkField_eq_ok_iff, type, Option.some.injEq, exists_eq_left', repeated,
      Json.arr.injEq, true_and, reduceCtorEq, false_and, false_or]
    have each : ∀ z w, Alike s t z w →
        Repeats s (checkLevels s levels t) f ((before ++ z :: after).map (expandLevels s depth t)) →
        Repeats s (checkLevels s levels t) f ((before ++ w :: after).map (expandLevels s depth t)) := by
      intro z w same repeats
      refine ⟨by simpa using repeats.atLeast, by simpa using repeats.atMost, ?_⟩
      have checked := repeats.checked
      simp only [List.map_append, List.map_cons, List.mem_append, List.mem_cons, List.mem_map]
        at checked ⊢
      rintro v (left | rfl | right)
      · exact checked v (.inl left)
      · exact (same.agree levels depth).mp (checked _ (.inr (.inl rfl)))
      · exact checked v (.inr (.inr right))
    exact ⟨each x y alike, each y x ⟨alike.isNull.symm, fun n m => (alike.agree n m).symm⟩⟩

end Fields

section Objects

variable {s : Schema} {d : TypeDefinition}

/-- Members under the same keys whose values fare alike in the fields that the keys denote. -/
def MembersFare (s : Schema) (inner : Checker) (d : TypeDefinition) (ms ns : Dict Json) : Prop :=
  List.Forall₂ (fun p q => p.1 = q.1 ∧ p.2.isNull = q.2.isNull ∧ ∀ f, d.Denotes p.1 f →
    (checkField s inner d f p.2 = .ok () ↔ checkField s inner d f q.2 = .ok ())) ms ns

theorem MembersFare.symm {inner : Checker} {ms ns : Dict Json} (fare : MembersFare s inner d ms ns) :
    MembersFare s inner d ns ms := by
  refine List.Forall₂.flip (fare.imp fun p q same => ?_)
  obtain ⟨key, null, fares⟩ := same
  exact ⟨key.symm, null.symm, fun f denoted => (fares f (key ▸ denoted)).symm⟩

theorem MembersFare.admits {inner : Checker} (formed : d.WellFormed) {ms ns : Dict Json}
    (fare : MembersFare s inner d ms ns)
    (admits : Admits s (checkField s inner d) d d.Prints ms) :
    Admits s (checkField s inner d) d d.Prints ns := by
  refine admits.of_related (rel_of_forall₂ (fare.imp fun p q same => ?_))
  obtain ⟨key, null, fares⟩ := same
  exact ⟨key, null, fun f printed _ => (fares f (formed.denotes_of_prints printed)).mp⟩

theorem MembersFare.accepted {inner : Checker} (formed : d.WellFormed)
    (kind : d.baseType = .choice ∨ d.baseType = .map ∨ d.baseType = .record) {ms ns : Dict Json}
    (fare : MembersFare s inner d ms ns) (accepted : checkLevel s inner d (.obj ms) = .ok ()) :
    checkLevel s inner d (.obj ns) = .ok () := by
  rcases kind with choice | structured
  · rw [checkLevel_of_choice choice] at accepted ⊢
    cases fare with
    | nil => exact accepted
    | @cons p q _ _ head tail =>
      cases tail with
      | cons => cases accepted
      | nil =>
        obtain ⟨key, v⟩ := p
        obtain ⟨_, w⟩ := q
        obtain ⟨rfl, -, fares⟩ := head
        unfold checkChoice at accepted ⊢
        dsimp only at accepted fares ⊢
        cases denoted : d.fieldOfKey? key with
        | none =>
          rw [denoted] at accepted
          cases accepted
        | some f =>
          rw [denoted] at accepted
          exact under_eq_ok_iff.mpr ((fares f denoted).mp (under_eq_ok_iff.mp accepted))
  · rw [checkLevel_of_members structured, checkMap_obj_eq_ok_iff formed] at accepted ⊢
    exact fare.admits formed accepted

def AlikeMembers (s : Schema) (d : TypeDefinition) (ms ns : Dict Json) : Prop :=
  List.Forall₂ (fun p q => p.1 = q.1 ∧ p.2.isNull = q.2.isNull ∧
    ∀ f, d.Denotes p.1 f → AlikeAt s d f p.2 q.2) ms ns

theorem AlikeMembers.fare {ms ns : Dict Json} (alike : AlikeMembers s d ms ns) (levels : Nat) :
    MembersFare s (checkLevels s levels) d ms ns := by
  refine alike.imp fun p q same => ⟨same.1, same.2.1, fun f denoted => ?_⟩
  simpa only [expandField_zero] using (same.2.2 f denoted).agree levels 0

theorem AlikeMembers.fare_expanded (built : s.Built) (denoted : s.Denotes d) {ms ns : Dict Json}
    (alike : AlikeMembers s d ms ns) (levels depth : Nat) :
    MembersFare s (checkLevels s levels) d
      (ms.map (expandMember d (expandField s (expandLevels s depth) d)))
      (ns.map (expandMember d (expandField s (expandLevels s depth) d))) := by
  have formed := built.wellFormed_of_denotes denoted
  have settled := settled_expandLevels built depth
  unfold MembersFare
  rw [List.forall₂_map_left_iff, List.forall₂_map_right_iff]
  refine alike.imp fun p q same => ?_
  obtain ⟨key, v⟩ := p
  obtain ⟨_, w⟩ := q
  obtain ⟨rfl, null, fields⟩ := same
  have named := fieldOfKey?_expandMember formed (expandField s (expandLevels s depth) d) (key, v)
  unfold TypeDefinition.Denotes
  rw [named]
  cases found : d.fieldOfKey? key with
  | none =>
    simp only [expandMember, found]
    refine ⟨trivial, null, fun f absent => ?_⟩
    cases absent
  | some f =>
    have field := fields f found
    simp only [expandMember, found, settled.expandField_isNull, null, true_and]
    rintro _ ⟨⟩
    exact field.agree levels depth

theorem repeatsField_congr (formed : d.WellFormed) {ms ns : Dict Json}
    (same : d.KeysApart ms.keys ↔ d.KeysApart ns.keys) : repeatsField d ms = repeatsField d ns := by
  rw [Bool.eq_iff_iff, ← Bool.not_eq_false, ← Bool.not_eq_false,
    formed.repeatsField_eq_false_iff, formed.repeatsField_eq_false_iff, same]

theorem keys_eq_of_alikeMembers {ms ns : Dict Json} (alike : AlikeMembers s d ms ns) :
    ms.keys = ns.keys := by
  unfold Dict.keys
  rw [← List.forall₂_eq_eq_eq, List.forall₂_map_left_iff, List.forall₂_map_right_iff]
  exact alike.imp fun p q same => same.1

/-- Objects with alike members are alike. -/
theorem AlikeMembers.alike (built : s.Built) (denoted : s.Denotes d)
    (kind : d.baseType = .choice ∨ d.baseType = .map ∨ d.baseType = .record) {ms ns : Dict Json}
    (alike : AlikeMembers s d ms ns) : Alike s d (.obj ms) (.obj ns) := by
  have formed := built.wellFormed_of_denotes denoted
  have plain : ∀ levels, checkLevel s (checkLevels s levels) d (.obj ms) = .ok () ↔
      checkLevel s (checkLevels s levels) d (.obj ns) = .ok () := fun levels =>
    ⟨(alike.fare levels).accepted formed kind, (alike.fare levels).symm.accepted formed kind⟩
  refine .of_levels rfl plain fun levels depth => ?_
  have verbose := alike.fare_expanded built denoted levels depth
  have twice : repeatsField d ms = repeatsField d ns :=
    repeatsField_congr formed (by rw [keys_eq_of_alikeMembers alike])
  rw [expandLevel_of_members kind, expandLevel_of_members kind, expandObject, expandObject, twice]
  cases repeatsField d ns with
  | true => exact plain levels
  | false => exact ⟨verbose.accepted formed kind, verbose.symm.accepted formed kind⟩

end Objects

section Places

variable {s : Schema} {d : TypeDefinition}

/-- As many values, of which those at the place of a field are related. -/
structure InPlace (fields : List Field) (R : Field → Json → Json → Prop) (vs ws : List Json) :
    Prop where
  length : vs.length = ws.length
  each : ∀ (i : Nat) f v w, fields[i]? = some f → vs[i]? = some v → ws[i]? = some w → R f v w

theorem InPlace.mono {fields : List Field} {R S : Field → Json → Json → Prop} {vs ws : List Json}
    (related : InPlace fields R vs ws) (weaken : ∀ f v w, R f v w → S f v w) :
    InPlace fields S vs ws :=
  ⟨related.length, fun i f v w field left right =>
    weaken f v w (related.each i f v w field left right)⟩

theorem InPlace.symm {fields : List Field} {R : Field → Json → Json → Prop} {vs ws : List Json}
    (related : InPlace fields R vs ws) : InPlace fields (fun f v w => R f w v) ws vs :=
  ⟨related.length.symm, fun i f v w field left right => related.each i f w v field right left⟩

theorem InPlace.tail {f : Field} {fields : List Field} {R : Field → Json → Json → Prop}
    {v w : Json} {vs ws : List Json} (related : InPlace (f :: fields) R (v :: vs) (w :: ws)) :
    InPlace fields R vs ws :=
  ⟨Nat.succ_inj.mp related.length, fun i => related.each (i + 1)⟩

theorem InPlace.head {f : Field} {fields : List Field} {R : Field → Json → Json → Prop}
    {v w : Json} {vs ws : List Json} (related : InPlace (f :: fields) R (v :: vs) (w :: ws)) :
    R f v w :=
  related.each 0 f v w rfl rfl rfl

theorem InPlace.keyedBy {fields : List Field} {R : Field → Json → Json → Prop}
    {S : String × Json → String × Json → Prop} {g : Field → Json → Json} {byId : Bool}
    {vs ws : List Json} (related : InPlace fields R vs ws)
    (null : ∀ f v w, R f v w → v.isNull = w.isNull)
    (member : ∀ f ∈ fields, ∀ v w, R f v w →
      S (verboseKey f byId, g f v) (verboseKey f byId, g f w)) :
    List.Forall₂ S (keyedBy g fields byId vs) (keyedBy g fields byId ws) := by
  induction fields generalizing vs ws with
  | nil => simp [Validation.keyedBy]
  | cons f fields ih =>
    cases vs with
    | nil =>
      obtain rfl := List.eq_nil_of_length_eq_zero related.length.symm
      simp [Validation.keyedBy]
    | cons v vs =>
      obtain ⟨w, ws, rfl⟩ := List.exists_cons_of_length_eq_add_one related.length.symm
      have rest := ih related.tail fun g hg => member g (List.mem_cons_of_mem _ hg)
      have first := related.head
      have same := null f v w first
      unfold Validation.keyedBy at rest ⊢
      cases empty : w.isNull with
      | true => simpa [same, empty] using rest
      | false =>
        simpa [same, empty] using ⟨member f List.mem_cons_self v w first, rest⟩

theorem InPlace.expandPlaces {fields : List Field} {R S : Field → Json → Json → Prop}
    {expand expand' : Field → Json → Json} {vs ws : List Json} (related : InPlace fields R vs ws)
    (null : ∀ f v w, R f v w → v.isNull = w.isNull)
    (kept : ∀ f v w, R f v w → v.isNull = true → S f v w)
    (expanded : ∀ f v w, R f v w → S f (expand f v) (expand' f w)) :
    InPlace fields S (expandPlaces expand fields vs) (expandPlaces expand' fields ws) := by
  refine ⟨by simp only [length_expandPlaces, related.length], ?_⟩
  induction fields generalizing vs ws with
  | nil =>
    intro i f v w field
    cases field
  | cons f fields ih =>
    cases vs with
    | nil =>
      intro i g v w _ left
      cases left
    | cons v vs =>
      obtain ⟨w, ws, rfl⟩ := List.exists_cons_of_length_eq_add_one related.length.symm
      rintro (_ | i) g v' w' field left right
      · cases field
        have first := related.head
        have same := null f v w first
        cases empty : v.isNull with
        | true =>
          rw [empty] at same
          simp only [Expansion.expandPlaces, empty, same.symm, if_true] at left right
          cases left
          cases right
          exact kept f v w first empty
        | false =>
          rw [empty] at same
          simp only [Expansion.expandPlaces, empty, same.symm] at left right
          cases left
          cases right
          exact expanded f v w first
      · exact ih related.tail i g v' w' field left right

def FareAt (s : Schema) (inner : Checker) (d : TypeDefinition) (f : Field) (v w : Json) : Prop :=
  v.isNull = w.isNull ∧ (checkField s inner d f v = .ok () ↔ checkField s inner d f w = .ok ())

theorem present?_isSome_iff {v? : Option Json} :
    (present? v?).isSome = true ↔ ∃ v, v? = some v ∧ v.isNull = false := by
  cases v? with
  | none => simp [present?]
  | some v => cases null : v.isNull <;> simp [present?, Option.filter_some, null]

theorem InPlace.exists_left {fields : List Field} {R : Field → Json → Json → Prop}
    {vs ws : List Json} (related : InPlace fields R vs ws) {i : Nat} {f : Field} {w : Json}
    (field : fields[i]? = some f) (value : ws[i]? = some w) : ∃ v, vs[i]? = some v ∧ R f v w := by
  have bound : i < vs.length := related.length ▸ (List.getElem?_eq_some_iff.mp value).1
  have left := List.getElem?_eq_getElem bound
  exact ⟨vs[i], left, related.each i f _ w field left value⟩

theorem InPlace.admitsPlaces {inner : Checker} {vs ws : List Json} {fields : List Field}
    (fare : InPlace fields (FareAt s inner d) vs ws) (admits : AdmitsPlaces s inner d fields vs) :
    AdmitsPlaces s inner d fields ws := by
  have length := fare.length
  refine ⟨length ▸ admits.fits, ?_, ?_, length ▸ admits.atLeast, length ▸ admits.atMost⟩
  · intro i f field required
    obtain ⟨v, left, some⟩ := present?_isSome_iff.mp (admits.given i f field required)
    obtain ⟨w, right, same⟩ := fare.symm.exists_left field left
    exact present?_isSome_iff.mpr ⟨w, right, same.1.symm.trans some⟩
  · rintro ⟨f, w⟩ placed some
    obtain ⟨i, here⟩ := List.mem_iff_getElem?.mp placed
    obtain ⟨field, right⟩ := List.getElem?_zip_eq_some.mp here
    obtain ⟨v, left, same⟩ := fare.exists_left field right
    have member : (f, v) ∈ fields.zip vs :=
      List.mem_iff_getElem?.mpr ⟨i, List.getElem?_zip_eq_some.mpr ⟨field, left⟩⟩
    exact same.2.mp (admits.checked _ member (same.1.trans some))

theorem InPlace.membersFare {inner : Checker} (formed : d.WellFormed)
    {R : Field → Json → Json → Prop} {g : Field → Json → Json} {vs ws : List Json}
    (related : InPlace d.fields R vs ws) (null : ∀ f v w, R f v w → v.isNull = w.isNull)
    (fares : ∀ f v w, R f v w → FareAt s inner d f (g f v) (g f w)) :
    MembersFare s inner d (Validation.keyedBy g d.fields d.options.byId vs)
      (Validation.keyedBy g d.fields d.options.byId ws) := by
  refine related.keyedBy null fun f hf v w same => ⟨rfl, (fares f v w same).1, ?_⟩
  intro h denoted
  have own : d.Denotes (verboseKey f d.options.byId) f := formed.denotes_of_prints ⟨hf, rfl⟩
  obtain rfl := Option.some.inj (own.symm.trans denoted)
  exact (fares f v w same).2

/-- Arrays whose values fare alike in place are accepted alike. -/
theorem InPlace.accepted {inner : Checker} (formed : d.WellFormed)
    (kind : d.baseType = .array ∨ d.baseType = .record) {vs ws : List Json}
    (fare : InPlace d.fields (FareAt s inner d) vs ws)
    (accepted : checkLevel s inner d (.arr vs) = .ok ()) :
    checkLevel s inner d (.arr ws) = .ok () := by
  rcases kind with array | record
  · rw [checkLevel_of_array array] at accepted ⊢
    obtain ⟨values, parts, admits⟩ := checkArray_eq_ok_iff.mp accepted
    obtain ⟨same, others⟩ := placesOf_arr parts
    cases same
    exact checkArray_eq_ok_iff.mpr ⟨ws, others ws, fare.admitsPlaces admits⟩
  · rw [checkLevel_of_members (.inr record)] at accepted ⊢
    obtain ⟨fields, kind, fits⟩ := fits_of_checkMap_arr accepted
    have own : d.fields = fields := congrArg Kind.fields kind
    have members := fare.membersFare (g := fun _ v => v) formed (fun _ _ _ same => same.1)
      fun _ _ _ same => same
    rw [own] at members
    rw [checkMap_arr kind fits, checkMap_obj_eq_ok_iff formed] at accepted
    rw [checkMap_arr kind (fare.length ▸ fits), checkMap_obj_eq_ok_iff formed]
    exact members.admits formed accepted

theorem AlikeAt.fare {f : Field} {v w : Json} (alike : AlikeAt s d f v w) (levels : Nat) :
    FareAt s (checkLevels s levels) d f v w :=
  ⟨alike.isNull, by simpa only [expandField_zero] using alike.agree levels 0⟩

theorem AlikeAt.fare_expanded (built : s.Built) {f : Field} {v w : Json}
    (alike : AlikeAt s d f v w) (levels depth : Nat) : FareAt s (checkLevels s levels) d f
      (expandField s (expandLevels s depth) d f v) (expandField s (expandLevels s depth) d f w) := by
  have settled := settled_expandLevels built depth
  refine ⟨?_, alike.agree levels depth⟩
  rw [settled.expandField_isNull, settled.expandField_isNull, alike.isNull]

theorem InPlace.accepted_expanded (built : s.Built) (formed : d.WellFormed)
    (kind : d.baseType = .array ∨ d.baseType = .record) {vs ws : List Json}
    (alike : InPlace d.fields (AlikeAt s d) vs ws) (levels depth : Nat)
    (accepted : checkLevel s (checkLevels s levels) d
      (expandLevel s (expandLevels s depth) d (.arr vs)) = .ok ()) :
    checkLevel s (checkLevels s levels) d
      (expandLevel s (expandLevels s depth) d (.arr ws)) = .ok () := by
  have plain := alike.mono fun f v w same => same.fare levels
  have null : ∀ f v w, AlikeAt s d f v w → v.isNull = w.isNull := fun _ _ _ same => same.isNull
  have expanded := fun f v w (same : AlikeAt s d f v w) => same.fare_expanded built levels depth
  cases own : d.kind with
  | array fields =>
    have fields_eq : d.fields = fields := congrArg Kind.fields own
    simp only [expandLevel, own] at accepted ⊢
    rw [← fields_eq] at accepted ⊢
    exact (alike.expandPlaces null (fun f v w same _ => same.fare levels) expanded).accepted
      formed kind accepted
  | record fields =>
    have fields_eq : d.fields = fields := congrArg Kind.fields own
    have record : d.baseType = .map ∨ d.baseType = .record := .inr (congrArg Kind.baseType own)
    simp only [expandLevel, own, alike.length] at accepted ⊢
    by_cases kept : (d.options.byId || decide (fields.length < ws.length)) = true
    · rw [if_pos kept] at accepted ⊢
      exact plain.accepted formed kind accepted
    · rw [if_neg kept] at accepted ⊢
      have byName : d.options.byId = false :=
        (Bool.or_eq_false_iff.mp (Bool.not_eq_true _ ▸ kept)).1
      have members := alike.membersFare formed null expanded
      rw [fields_eq, byName] at members
      exact members.accepted formed (.inr record) accepted
  | _ => simp [TypeDefinition.baseType, own, Kind.baseType] at kind

/-- Arrays with alike values in place are alike. -/
theorem InPlace.alike (built : s.Built) (denoted : s.Denotes d)
    (kind : d.baseType = .array ∨ d.baseType = .record) {vs ws : List Json}
    (alike : InPlace d.fields (AlikeAt s d) vs ws) : Alike s d (.arr vs) (.arr ws) := by
  have formed := built.wellFormed_of_denotes denoted
  have back : InPlace d.fields (AlikeAt s d) ws vs := alike.symm.mono fun _ _ _ => AlikeAt.symm
  refine .of_levels rfl (fun levels => ⟨?_, ?_⟩) fun levels depth => ⟨?_, ?_⟩
  · exact (alike.mono fun _ _ _ same => same.fare levels).accepted formed kind
  · exact (back.mono fun _ _ _ same => same.fare levels).accepted formed kind
  · exact alike.accepted_expanded built formed kind levels depth
  · exact back.accepted_expanded built formed kind levels depth

end Places

section Replacement

variable {s : Schema} {d : TypeDefinition} {f : Field}

theorem forall₂_replace {α : Type} {R : α → α → Prop} (refl : ∀ x, R x x) {x y : α} (related : R x y)
    (before after : List α) : List.Forall₂ R (before ++ x :: after) (before ++ y :: after) := by
  induction before with
  | nil => exact .cons related (List.forall₂_same.mpr fun z _ => refl z)
  | cons z before ih => exact .cons (refl z) ih

theorem alike_of_inNode (built : s.Built) (denoted : s.Denotes d) {v w a b : Json}
    (alike : AlikeAt s d f v w) (node : InNode d f v w a b) : Alike s d a b := by
  cases node with
  | @member key kind own before after =>
    refine AlikeMembers.alike built denoted kind (forall₂_replace (fun p => ?_) ?_ before after)
    · exact ⟨rfl, rfl, fun g _ => .refl p.2⟩
    · refine ⟨rfl, alike.isNull, fun g other => ?_⟩
      obtain rfl := Option.some.inj (own.symm.trans other)
      exact alike
  | @place before after kind field =>
    refine InPlace.alike built denoted kind ⟨by simp, fun i g x y here left right => ?_⟩
    by_cases place : i = before.length
    · subst place
      obtain rfl := Option.some.inj (field.symm.trans here)
      obtain rfl : v = x := by simpa using left
      obtain rfl : w = y := by simpa using right
      exact alike
    · have same : (before ++ v :: after)[i]? = (before ++ w :: after)[i]? := by
        rcases Nat.lt_or_gt_of_ne place with earlier | later
        · rw [List.getElem?_append_left earlier, List.getElem?_append_left earlier]
        · obtain ⟨k, rfl⟩ := Nat.exists_eq_add_of_lt later
          simp [List.getElem?_append_right, Nat.add_assoc]
      obtain rfl := Option.some.inj (left.symm.trans (same.trans right))
      exact .refl x

end Replacement

end Jadn.Validation
