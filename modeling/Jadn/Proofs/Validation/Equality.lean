import Jadn.Proofs.Expansion.Forms

/-!
Validation does not tell equal values apart.

A check that accepts a value accepts every equal one, if the check of the next level does. So
neither the order of members nor the sign of a zero matters, at whatever level.
-/

set_option autoImplicit false

namespace Jadn.Validation

open Json (Equal EqualMember)

/-- A check that accepts, with a value, every equal one. -/
def Insensitive (check : Json → Outcome) : Prop :=
  ∀ v w, Equal v w → check v = .ok () → check w = .ok ()

section Scalars

variable {s : Schema} {d : TypeDefinition} {v w : Json}

theorem uint64?_of_equal (h : Equal v w) : v.uint64? = w.uint64? := by
  rcases h.cases with ⟨rfl, -, -⟩ | ⟨x, y, rfl, rfl, -⟩ | ⟨vs, ws, rfl, rfl, -⟩ |
    ⟨ms, ns, rfl, rfl, -⟩
  all_goals rfl

theorem octets_of_equal (h : Equal v w) : (octets d v).toOption = (octets d w).toOption := by
  rcases h.cases with ⟨rfl, -, -⟩ | ⟨x, y, rfl, rfl, -⟩ | ⟨vs, ws, rfl, rfl, related⟩ |
    ⟨ms, ns, rfl, rfl, -⟩
  · rfl
  · rfl
  · have read : ∀ f : Option UInt64 → Option UInt8,
        vs.mapM (fun item => f item.uint64?) = ws.mapM fun item => f item.uint64? := by
      intro f
      clear h
      induction related with
      | nil => rfl
      | cons head _ ih => rw [List.mapM_cons, List.mapM_cons, uint64?_of_equal head, ih]
    simp only [octets, read fun n => (n.filter (· ≤ 255)).map UInt64.toUInt8]
    split <;> rfl
  · rfl

theorem checkBinary_insensitive : Insensitive (checkBinary s d) := by
  intro v w h accepted
  have same : (checkBinary s d v).toOption = (checkBinary s d w).toOption := by
    unfold checkBinary
    exact Except.toOption_bind_congr (octets_of_equal h) fun _ => rfl
  rw [accepted, Except.toOption_ok] at same
  exact Except.toOption_eq_some_iff.mp same.symm

/-- Neither arrays nor objects are accepted where values have no parts. -/
theorem insensitive_of_scalar {check : Json → Outcome}
    (real : ∀ x y, (x == y) = true → check (.real x) = .ok () → check (.real y) = .ok ())
    (arr : ∀ vs, check (.arr vs) ≠ .ok ()) (obj : ∀ ms, check (.obj ms) ≠ .ok ()) :
    Insensitive check := by
  intro v w h accepted
  rcases h.cases with ⟨rfl, -, -⟩ | ⟨x, y, rfl, rfl, equal⟩ | ⟨vs, ws, rfl, rfl, -⟩ |
    ⟨ms, ns, rfl, rfl, -⟩
  · exact accepted
  · exact real x y equal accepted
  · exact absurd accepted (arr vs)
  · exact absurd accepted (obj ms)

theorem checkBoolean_insensitive : Insensitive (checkBoolean d) :=
  insensitive_of_scalar (fun _ _ _ => nofun) nofun nofun

theorem checkInteger_insensitive : Insensitive (checkInteger d) :=
  insensitive_of_scalar (fun _ _ _ => nofun) nofun nofun

theorem checkNumber_insensitive : Insensitive (checkNumber d) := by
  refine insensitive_of_scalar (fun x y equal accepted => ?_) nofun nofun
  have same : (checkNumber d (.real x)).toOption = (checkNumber d (.real y)).toOption := by
    unfold checkNumber
    cases d.options.format <;> cases d.options.minf <;>
      cases d.options.maxf.filter (!·.isZero) <;>
      simp only [Json.number?, Except.toOption_bind, apply_ite Except.toOption,
        Except.toOption_error, Except.toOption_pure, Binary64.lt_of_beq_left equal,
        Binary64.lt_of_beq_right equal]
  rw [accepted, Except.toOption_ok] at same
  exact Except.toOption_eq_some_iff.mp same.symm

theorem checkString_insensitive : Insensitive (checkString s d) :=
  insensitive_of_scalar (fun _ _ _ => nofun) nofun nofun

theorem checkEnumerated_insensitive : Insensitive (checkEnumerated d) := by
  have refused : ∀ v : Json, v.int64? = none → v.str? = none → checkEnumerated d v ≠ .ok () := by
    intro v number text
    unfold checkEnumerated
    rw [number, text]
    cases d.options.byId <;> nofun
  exact insensitive_of_scalar (fun x _ _ accepted => absurd accepted (refused _ rfl rfl))
    (fun vs => refused _ rfl rfl) fun ms => refused _ rfl rfl

end Scalars

section Parts

variable {s : Schema} {inner : Checker} {d : TypeDefinition} {vs ws : List Json}

theorem Insensitive.forall_of_forall₂ {check : Json → Outcome} (h : Insensitive check)
    (related : List.Forall₂ Equal vs ws) (accepted : ∀ v ∈ vs, check v = .ok ()) :
    ∀ w ∈ ws, check w = .ok () := by
  intro w hw
  obtain ⟨v, hv, equal⟩ := exists_mem_left (rel_of_forall₂ related) hw
  exact h v w equal (accepted v hv)

theorem repeated?_eq_none_iff {before : List Json} : repeated? before vs = none ↔
    (∀ v ∈ vs, ∀ b ∈ before, ¬ (v == b) = true) ∧
      vs.Pairwise fun v w => ¬ (w == v) = true := by
  induction vs generalizing before with
  | nil => simp [repeated?]
  | cons v vs ih =>
    rw [repeated?]
    cases double : before.contains v with
    | true =>
      obtain ⟨b, hb, equal⟩ := List.contains_iff_exists_mem_beq.mp double
      simp only [if_true, reduceCtorEq, List.forall_mem_cons, false_iff, not_and]
      exact fun apart => absurd equal (apart.1 b hb)
    | false =>
      have fresh : ∀ b ∈ before, ¬ (v == b) = true := by
        intro b hb equal
        rw [List.contains_iff_exists_mem_beq.mpr ⟨b, hb, equal⟩] at double
        cases double
      simp only [Bool.false_eq_true, if_false, ih, List.forall_mem_cons, List.pairwise_cons]
      grind

theorem repeated?_of_forall₂ (related : List.Forall₂ Equal vs ws)
    (distinct : repeated? [] vs = none) : repeated? [] ws = none := by
  rw [repeated?_eq_none_iff] at distinct ⊢
  refine ⟨by simp, ?_⟩
  replace distinct := distinct.2
  induction related with
  | nil => exact .nil
  | @cons v w vs ws head tail ih =>
    obtain ⟨first, rest⟩ := List.pairwise_cons.mp distinct
    refine List.pairwise_cons.mpr ⟨fun w' hw' equal => ?_, ih rest⟩
    obtain ⟨v', hv', head'⟩ := exists_mem_left (rel_of_forall₂ tail) hw'
    have back : Equal w' w := ⟨head'.distinct', head.distinct', equal⟩
    exact first v' hv' ((head'.trans back).trans head.symm).same

end Parts

section Levels

variable {s : Schema} {inner : Checker} {d : TypeDefinition}
  (further : ∀ t, s.Denotes t → Insensitive (inner t))
include further

theorem checkField_insensitive (f : Field) : Insensitive (checkField s inner d f) := by
  intro v w h accepted
  rw [checkField_eq_ok_iff] at accepted ⊢
  obtain ⟨t, type, accepted⟩ := accepted
  have next := further t (Or.inr ⟨d.name, f, type⟩)
  refine ⟨t, type, ?_⟩
  rcases accepted with ⟨single, value⟩ | ⟨repeated, values, rfl, repeats⟩
  · exact Or.inl ⟨single, next v w h value⟩
  · refine Or.inr ⟨repeated, ?_⟩
    rcases h.cases with ⟨rfl, -, -⟩ | ⟨_, _, ⟨⟩, -⟩ | ⟨_, ws, ⟨⟩, rfl, related⟩ | ⟨_, _, ⟨⟩, -⟩
    · exact ⟨values, rfl, repeats⟩
    · have length := related.length_eq
      exact ⟨ws, rfl, length ▸ repeats.atLeast, length ▸ repeats.atMost,
        next.forall_of_forall₂ related repeats.checked⟩

theorem checkChoice_insensitive : Insensitive (checkChoice s inner d) := by
  intro v w h accepted
  rcases h.cases with ⟨rfl, -, -⟩ | ⟨x, y, rfl, rfl, -⟩ | ⟨vs, ws, rfl, rfl, -⟩ |
    ⟨ms, ns, rfl, rfl, related⟩
  · exact accepted
  · cases accepted
  · cases accepted
  · obtain ⟨⟨key, v⟩, rfl⟩ : ∃ p, ms = [p] := by
      match ms with
      | [] => cases accepted
      | [p] => exact ⟨p, rfl⟩
      | _ :: _ :: _ => cases accepted
    obtain ⟨⟨key', w⟩, rfl⟩ : ∃ q, ns = [q] :=
      List.length_eq_one_iff.mp (by simpa using (Multiset.card_eq_card_of_rel related).symm)
    obtain ⟨p, only, same, equal⟩ := exists_mem_left related (List.mem_singleton_self (key', w))
    obtain rfl := List.mem_singleton.mp only
    obtain rfl : key = key' := same
    unfold checkChoice at accepted ⊢
    dsimp only at accepted ⊢
    cases denoted : d.fieldOfKey? key with
    | none =>
      rw [denoted] at accepted
      cases accepted
    | some f =>
      rw [denoted] at accepted
      exact under_eq_ok_iff.mpr
        (checkField_insensitive further f v w equal (under_eq_ok_iff.mp accepted))

theorem checkArrayOf_insensitive : Insensitive (checkArrayOf s inner d) := by
  intro v w h accepted
  rw [checkArrayOf_eq_ok_iff] at accepted ⊢
  obtain ⟨t, vtype, values, rfl, admits⟩ := accepted
  have next := further t (Schema.denotes_of_bind vtype)
  refine ⟨t, vtype, ?_⟩
  rcases h.cases with ⟨rfl, -, -⟩ | ⟨_, _, ⟨⟩, -⟩ | ⟨_, ws, ⟨⟩, rfl, related⟩ | ⟨_, _, ⟨⟩, -⟩
  · exact ⟨values, rfl, admits⟩
  · have length := related.length_eq
    exact ⟨ws, rfl, length ▸ admits.limited, next.forall_of_forall₂ related admits.checked,
      fun unique => repeated?_of_forall₂ related (admits.distinct unique),
      length ▸ admits.atLeast, length ▸ admits.atMost⟩

theorem admitsPlaces_of_forall₂ {fields : List Field} {vs ws : List Json}
    (related : List.Forall₂ Equal vs ws) (admits : AdmitsPlaces s inner d fields vs) :
    AdmitsPlaces s inner d fields ws := by
  have length := related.length_eq
  refine { fits := length ▸ admits.fits, given := ?_, checked := ?_,
           atLeast := length ▸ admits.atLeast, atMost := length ▸ admits.atMost }
  · intro i f here required
    have same : (present? vs[i]?).isSome = (present? ws[i]?).isSome := by
      clear admits here length
      induction related generalizing i with
      | nil => rfl
      | @cons v w _ _ head _ ih =>
        cases i with
        | zero => cases null : w.isNull <;> simp [present?, Option.filter_some, head.isNull, null]
        | succ i => simpa using ih i
    exact same ▸ admits.given i f here required
  · rintro ⟨f', w⟩ paired given
    obtain ⟨⟨f, v⟩, hv, same, equal⟩ :=
      exists_mem_left (rel_of_forall₂ (forall₂_zip_right related fields)) paired
    obtain rfl : f = f' := same
    exact checkField_insensitive further f v w equal
      (admits.checked (f, v) hv (equal.isNull ▸ given))

omit further in
theorem placesOf_arr {vs : List Json} {v : Json} (h : placesOf d (.arr vs) = .ok v) :
    v = .arr vs ∧ ∀ ws, placesOf d (.arr ws) = .ok (.arr ws) := by
  unfold placesOf at h ⊢
  cases format : d.options.format with
  | none =>
    rw [format] at h
    cases h
    exact ⟨rfl, fun _ => rfl⟩
  | some keyword =>
    rw [format] at h
    unfold Format.networkParts at h ⊢
    cases known : Format.longestNetwork? keyword with
    | none =>
      simp only [known, ofType] at h
      cases h
    | some longest =>
      simp only [known, ofType] at h ⊢
      cases h
      exact ⟨rfl, fun _ => rfl⟩

omit further in
theorem placesOf_ne_arr {v : Json} (text : v.str? = none) (array : v.arr? = none)
    (values : List Json) : placesOf d v ≠ .ok (.arr values) := by
  intro h
  unfold placesOf at h
  split at h
  · rw [ofType, Except.mapError_eq_ok_iff] at h
    unfold Format.networkParts at h
    split at h
    · cases h
    · cases v <;> simp_all [Json.str?, Json.arr?]
  · cases h
    cases array

theorem checkArray_insensitive (fields : List Field) :
    Insensitive (checkArray s inner d fields) := by
  intro v w h accepted
  rw [checkArray_eq_ok_iff] at accepted ⊢
  obtain ⟨values, parts, admits⟩ := accepted
  rcases h.cases with ⟨rfl, -, -⟩ | ⟨x, y, rfl, rfl, -⟩ | ⟨vs, ws, rfl, rfl, related⟩ |
    ⟨ms, ns, rfl, rfl, -⟩
  · exact ⟨values, parts, admits⟩
  · exact absurd parts (placesOf_ne_arr rfl rfl values)
  · obtain ⟨same, others⟩ := placesOf_arr parts
    cases same
    exact ⟨ws, others ws, admitsPlaces_of_forall₂ further related admits⟩
  · exact absurd parts (placesOf_ne_arr rfl rfl values)

omit further in
theorem rel_keyed {vs ws : List Json} (related : List.Forall₂ Equal vs ws) (fields : List Field)
    (byId : Bool) : Multiset.Rel EqualMember (keyed fields byId vs : Multiset (String × Json))
      (keyed fields byId ws) := by
  induction related generalizing fields with
  | nil => simp [keyed, keyedBy]
  | cons head _ ih =>
    cases fields with
    | nil => simp [keyed, keyedBy]
    | cons f fields =>
      rw [keyed_cons, keyed_cons, head.isNull]
      split
      · exact ih fields
      · exact .cons ⟨rfl, head⟩ (ih fields)

theorem admits_of_equal {speaks : String → Field → Prop} {ms ns : Dict Json}
    (related : Multiset.Rel EqualMember (ms : Multiset (String × Json)) ns)
    (admits : Admits s (checkField s inner d) d speaks ms) :
    Admits s (checkField s inner d) d speaks ns :=
  admits.of_related (related.mono fun _ _ _ _ equal => ⟨equal.1, equal.2.isNull,
    fun f _ _ => checkField_insensitive further f _ _ equal.2⟩)

theorem checkMap_insensitive (formed : d.WellFormed) : Insensitive (checkMap s inner d) := by
  intro v w h accepted
  rcases h.cases with ⟨rfl, -, -⟩ | ⟨x, y, rfl, rfl, -⟩ | ⟨vs, ws, rfl, rfl, related⟩ |
    ⟨ms, ns, rfl, rfl, related⟩
  · exact accepted
  · unfold checkMap members at accepted
    cases d.kind <;> cases accepted
  · obtain ⟨fields, kind, fits⟩ := fits_of_checkMap_arr accepted
    rw [checkMap_arr kind fits, checkMap_obj_eq_ok_iff formed] at accepted
    rw [checkMap_arr kind (related.length_eq ▸ fits), checkMap_obj_eq_ok_iff formed]
    exact admits_of_equal further (rel_keyed related fields _) accepted
  · rw [checkMap_obj_eq_ok_iff formed] at accepted ⊢
    exact admits_of_equal further related accepted

omit further in
theorem pairs?_of_forall₂ {vs ws : List Json} (related : List.Forall₂ Equal vs ws)
    {es : List (Json × Json)} (paired : pairs? vs = some es) :
    ∃ fs, pairs? ws = some fs ∧ List.Forall₂ (fun e f => Equal e.1 f.1 ∧ Equal e.2 f.2) es fs := by
  fun_induction pairs? vs generalizing ws es with
  | case1 =>
    cases related
    cases paired
    exact ⟨[], rfl, .nil⟩
  | case2 => cases paired
  | case3 key value rest ih =>
    obtain ⟨later, listed, rfl⟩ := Option.map_eq_some_iff.mp paired
    cases related with
    | @cons _ key' _ _ first related =>
      cases related with
      | @cons _ value' _ _ second related =>
        obtain ⟨fs, found, alike⟩ := ih related listed
        exact ⟨(key', value') :: fs, by simp [pairs?, found], .cons ⟨first, second⟩ alike⟩

theorem checkMapOf_insensitive : Insensitive (checkMapOf s inner d) := by
  intro v w h accepted
  rw [checkMapOf_eq_ok_iff] at accepted ⊢
  obtain ⟨k, ktype, t, vtype, es, listed, admits⟩ := accepted
  refine ⟨k, ktype, t, vtype, ?_⟩
  have first := further k (Schema.denotes_of_bind ktype)
  have second := further t (Schema.denotes_of_bind vtype)
  rcases h.cases with ⟨rfl, -, -⟩ | ⟨x, y, rfl, rfl, -⟩ | ⟨vs, ws, rfl, rfl, related⟩ |
    ⟨ms, ns, rfl, rfl, related⟩
  · exact ⟨es, listed, admits⟩
  · cases listed
  · cases paired : pairs? vs with
    | none => simp [entries, paired] at listed
    | some es' =>
      obtain rfl : es' = es := by simpa [entries, paired] using listed
      obtain ⟨fs, paired', alike⟩ := pairs?_of_forall₂ related paired
      refine ⟨fs, by simp [entries, paired'], admits.of_related (rel_of_forall₂ (alike.imp ?_))⟩
      rintro e f ⟨key, value⟩ ⟨checked, checked'⟩
      exact ⟨first _ _ key checked, second _ _ value checked'⟩
  · simp only [entries, Except.ok.injEq] at listed
    subst listed
    refine ⟨_, rfl, admits.of_related ?_⟩
    rw [← Multiset.map_coe, ← Multiset.map_coe, Multiset.rel_map]
    refine related.mono ?_
    rintro ⟨key, v⟩ - ⟨key', w⟩ - ⟨same, equal⟩ ⟨checked, checked'⟩
    obtain rfl : key = key' := same
    exact ⟨checked, second v w equal checked'⟩

theorem checkLevel_insensitive (formed : d.WellFormed) : Insensitive (checkLevel s inner d) := by
  unfold checkLevel
  cases d.kind with
  | binary => exact checkBinary_insensitive
  | boolean => exact checkBoolean_insensitive
  | integer => exact checkInteger_insensitive
  | number => exact checkNumber_insensitive
  | string => exact checkString_insensitive
  | enumerated => exact checkEnumerated_insensitive
  | choice => exact checkChoice_insensitive further
  | array fields => exact checkArray_insensitive further fields
  | arrayOf => exact checkArrayOf_insensitive further
  | map => exact checkMap_insensitive further formed
  | mapOf => exact checkMapOf_insensitive further
  | record => exact checkMap_insensitive further formed

end Levels

/-- At no level are equal values told apart. -/
theorem checkLevels_insensitive {s : Schema} (built : s.Built) (levels : Nat) {d : TypeDefinition}
    (denoted : s.Denotes d) : Insensitive (checkLevels s levels d) := by
  induction levels generalizing d with
  | zero => exact fun _ _ _ refused => nomatch refused
  | succ levels ih =>
    exact checkLevel_insensitive (fun _ denoted => ih denoted) (built.wellFormed_of_denotes denoted)

end Jadn.Validation
