import Jadn.Proofs.Codec.Members
import Jadn.Proofs.Likeness
import Mathlib.Data.Multiset.MapFold

/-!
Equality of JSON values that are told apart neither by the order of members nor by the sign of
a zero.

Objects with distinct names are equal if their members are, one to one and in any order. On
values in which no object holds two members of one name equality is symmetric and transitive.
-/

set_option autoImplicit false

namespace Jadn

section Related

variable {α β : Type}

theorem rel_of_forall₂ {R : α → β → Prop} {xs : List α} {ys : List β} (h : List.Forall₂ R xs ys) :
    Multiset.Rel R (xs : Multiset α) ys := by
  induction h with
  | nil => exact .zero
  | cons head _ ih => exact .cons head ih

theorem rel_of_perm {R : α → β → Prop} {xs : List α} {ys zs : List β}
    (h : Multiset.Rel R (xs : Multiset α) ys) (order : ys.Perm zs) :
    Multiset.Rel R (xs : Multiset α) zs :=
  Multiset.coe_eq_coe.mpr order ▸ h

theorem forall₂_mem {R : α → β → Prop} {xs : List α} {ys : List β} (h : List.Forall₂ R xs ys) :
    List.Forall₂ (fun x y => x ∈ xs ∧ y ∈ ys ∧ R x y) xs ys :=
  (forall₂_zipped h).imp fun _ _ paired =>
    ⟨(List.of_mem_zip paired.2).1, (List.of_mem_zip paired.2).2, paired.1⟩

theorem forall₂_zip_right {γ : Type} {R : β → γ → Prop} {ys : List β} {zs : List γ}
    (related : List.Forall₂ R ys zs) (xs : List α) :
    List.Forall₂ (fun p q => p.1 = q.1 ∧ R p.2 q.2) (xs.zip ys) (xs.zip zs) := by
  induction related generalizing xs with
  | nil => simp
  | cons head _ ih =>
    cases xs with
    | nil => simp
    | cons x xs => exact .cons ⟨rfl, head⟩ (ih xs)

theorem exists_mem_left {R : α → β → Prop} {xs : List α} {ys : List β}
    (h : Multiset.Rel R (xs : Multiset α) ys) {y : β} (hy : y ∈ ys) : ∃ x ∈ xs, R x y :=
  Multiset.exists_mem_of_rel_of_mem (Multiset.rel_flip.mpr h) hy

theorem Dict.perm_keys {R : String × α → String × β → Prop} {ms : Dict α} {ns : Dict β}
    (h : Multiset.Rel R (ms : Multiset (String × α)) ns) (same : ∀ p q, R p q → p.1 = q.1) :
    ms.keys.Perm ns.keys := by
  have equal : Multiset.Rel (· = ·) (Multiset.map Prod.fst (ms : Multiset (String × α)))
      (Multiset.map Prod.fst (ns : Multiset (String × β))) :=
    Multiset.rel_map.mpr (h.mono fun p _ q _ related => same p q related)
  exact Multiset.coe_eq_coe.mp (Multiset.rel_eq.mp equal)

/-- As many entries under distinct keys are related if each has one that it is related to. -/
theorem Dict.rel_of_exists {R : α → β → Prop} {ms : Dict α} {ns : Dict β}
    (distinct : ms.keys.Nodup) (length : ms.length = ns.length)
    (each : ∀ p ∈ ms, ∃ q ∈ ns, p.1 = q.1 ∧ R p.2 q.2) :
    Multiset.Rel (fun p (q : String × β) => p.1 = q.1 ∧ R p.2 q.2)
      (ms : Multiset (String × α)) ns := by
  induction ms generalizing ns with
  | nil =>
    rw [List.eq_nil_of_length_eq_zero length.symm]
    exact .zero
  | cons p ms ih =>
    obtain ⟨q, hq, related⟩ := each p List.mem_cons_self
    obtain ⟨before, after, rfl⟩ := List.append_of_mem hq
    obtain ⟨fresh, distinct⟩ := List.nodup_cons.mp distinct
    -- The other entries have other keys, so theirs are among the rest.
    have rest := @ih (before ++ after) distinct (by simp at length ⊢; omega) fun p' hp' => by
      obtain ⟨q', hq', same, related'⟩ := each p' (List.mem_cons_of_mem _ hp')
      refine ⟨q', ?_, same, related'⟩
      have apart : q' ≠ q := by
        rintro rfl
        exact fresh (List.mem_map.mpr ⟨p', hp', same.trans related.1.symm⟩)
      simpa [apart] using hq'
    have all := Multiset.Rel.cons
      (r := fun (p : String × α) (q : String × β) => p.1 = q.1 ∧ R p.2 q.2) related rest
    have order : (q :: (before ++ after)).Perm (before ++ q :: after) := List.perm_middle.symm
    exact rel_of_perm all order

end Related

namespace Json

theorem same_arr_iff {vs ws : List Json} :
    same (.arr vs) (.arr ws) = true ↔ List.Forall₂ (fun v w => same v w = true) vs ws := by
  rw [same]
  induction vs generalizing ws with
  | nil => cases ws <;> simp [sameItems]
  | cons v vs ih => cases ws <;> simp [sameItems, ih]

theorem sameMembers_iff {ms ns : Dict Json} : sameMembers ms ns = true ↔
    ∀ p ∈ ms, ∃ w, ns.lookup p.1 = some w ∧ same p.2 w = true := by
  induction ms with
  | nil => simp [sameMembers]
  | cons p ms ih =>
    obtain ⟨k, v⟩ := p
    rw [sameMembers, Bool.and_eq_true, ih, List.forall_mem_cons]
    refine and_congr_left fun _ => ?_
    cases ns.lookup k <;> simp

def SameMember (p q : String × Json) : Prop := p.1 = q.1 ∧ same p.2 q.2 = true

theorem same_obj_iff {ms ns : Dict Json} (distinct : ms.keys.Nodup) (distinct' : ns.keys.Nodup) :
    same (.obj ms) (.obj ns) = true ↔
      Multiset.Rel SameMember (ms : Multiset (String × Json)) ns := by
  rw [same, Bool.and_eq_true, beq_iff_eq, sameMembers_iff]
  constructor
  · rintro ⟨length, each⟩
    refine Dict.rel_of_exists (R := fun v w => same v w = true) distinct length fun p hp => ?_
    obtain ⟨w, found, equal⟩ := each p hp
    exact ⟨(p.1, w), mem_of_lookup found, rfl, equal⟩
  · intro related
    refine ⟨by simpa using Multiset.card_eq_card_of_rel related, fun p hp => ?_⟩
    obtain ⟨q, hq, key, equal⟩ := Multiset.exists_mem_of_rel_of_mem related hp
    exact ⟨q.2, lookup_of_mem distinct' (key ▸ hq), equal⟩

theorem Distinct.keys_nodup {ms : Dict Json} (h : Distinct (.obj ms)) : ms.keys.Nodup := by
  cases h with
  | obj names _ => exact names

theorem Distinct.of_mem_arr {vs : List Json} (h : Distinct (.arr vs)) {v : Json} (hv : v ∈ vs) :
    v.Distinct := by
  cases h with
  | arr each => exact each v hv

theorem same_cases {v w : Json} (h : same v w = true) :
    v = w ∨ (∃ x y, v = .real x ∧ w = .real y ∧ (x == y) = true) ∨
      (∃ vs ws, v = .arr vs ∧ w = .arr ws) ∨ ∃ ms ns, v = .obj ms ∧ w = .obj ns := by
  cases v <;> cases w <;> simp_all [same]

theorem same_of_isNull {v w : Json} (hv : v.isNull = true) (hw : w.isNull = true) :
    same v w = true := by
  cases v <;> cases hv
  cases w <;> cases hw
  rfl

theorem same_isNull {v w : Json} (h : same v w = true) : v.isNull = w.isNull := by
  rcases same_cases h with rfl | ⟨x, y, rfl, rfl, -⟩ | ⟨vs, ws, rfl, rfl⟩ | ⟨ms, ns, rfl, rfl⟩
  all_goals rfl

theorem Distinct.same_symm {v w : Json} (hv : v.Distinct) (hw : w.Distinct)
    (h : same v w = true) : same w v = true := by
  induction hv generalizing w with
  | arr each ih =>
    rcases same_cases h with rfl | ⟨_, _, ⟨⟩, -⟩ | ⟨vs, ws, ⟨⟩, rfl⟩ | ⟨_, _, ⟨⟩, -⟩
    · exact hw.same_self
    · rw [same_arr_iff] at h ⊢
      refine List.Forall₂.flip ((forall₂_mem h).imp ?_)
      rintro v w ⟨hv, hw', equal⟩
      exact ih v hv (hw.of_mem_arr hw') equal
  | obj names each ih =>
    rcases same_cases h with rfl | ⟨_, _, ⟨⟩, -⟩ | ⟨_, _, ⟨⟩, -⟩ | ⟨ms, ns, ⟨⟩, rfl⟩
    · exact hw.same_self
    · rw [same_obj_iff names hw.keys_nodup] at h
      rw [same_obj_iff hw.keys_nodup names, ← Multiset.rel_flip]
      refine h.mono fun p hp q hq related => ⟨related.1.symm, ?_⟩
      exact ih p hp (Members.distinct_of_mem hw hq) related.2
  | real x =>
    rcases same_cases h with rfl | ⟨_, y, ⟨⟩, rfl, equal⟩ | ⟨_, _, ⟨⟩, -⟩ | ⟨_, _, ⟨⟩, -⟩
    · exact hw.same_self
    · exact Binary64.beq_symm equal
  | _ =>
    rcases same_cases h with rfl | ⟨_, _, ⟨⟩, -⟩ | ⟨_, _, ⟨⟩, -⟩ | ⟨_, _, ⟨⟩, -⟩
    exact hw.same_self

theorem Distinct.same_trans {u v w : Json} (hu : u.Distinct) (hv : v.Distinct) (hw : w.Distinct)
    (first : same u v = true) (second : same v w = true) : same u w = true := by
  induction hu generalizing v w with
  | arr each ih =>
    rcases same_cases first with rfl | ⟨_, _, ⟨⟩, -⟩ | ⟨_, vs, ⟨⟩, rfl⟩ | ⟨_, _, ⟨⟩, -⟩
    · exact second
    rcases same_cases second with rfl | ⟨_, _, ⟨⟩, -⟩ | ⟨_, ws, ⟨⟩, rfl⟩ | ⟨_, _, ⟨⟩, -⟩
    · exact first
    rw [same_arr_iff] at first second ⊢
    refine (forall₂_comp (forall₂_mem first) (forall₂_mem second)).imp ?_
    rintro u w ⟨v, ⟨hu', hv', equal⟩, -, hw', equal'⟩
    exact ih u hu' (hv.of_mem_arr hv') (hw.of_mem_arr hw') equal equal'
  | @obj us names each ih =>
    rcases same_cases first with rfl | ⟨_, _, ⟨⟩, -⟩ | ⟨_, _, ⟨⟩, -⟩ | ⟨_, vs, ⟨⟩, rfl⟩
    · exact second
    rcases same_cases second with rfl | ⟨_, _, ⟨⟩, -⟩ | ⟨_, _, ⟨⟩, -⟩ | ⟨_, ws, ⟨⟩, rfl⟩
    · exact first
    rw [same_obj_iff names hv.keys_nodup] at first
    rw [same_obj_iff hv.keys_nodup hw.keys_nodup] at second
    rw [same_obj_iff names hw.keys_nodup]
    have length : us.length = ws.length := by
      simpa using (Multiset.card_eq_card_of_rel first).trans (Multiset.card_eq_card_of_rel second)
    refine Dict.rel_of_exists (R := fun v w => same v w = true) names length fun p hp => ?_
    obtain ⟨q, hq, key, equal⟩ := Multiset.exists_mem_of_rel_of_mem first hp
    obtain ⟨r, hr, key', equal'⟩ := Multiset.exists_mem_of_rel_of_mem second hq
    exact ⟨r, hr, key.trans key', ih p hp (Members.distinct_of_mem hv hq)
      (Members.distinct_of_mem hw hr) equal equal'⟩
  | real x =>
    rcases same_cases first with rfl | ⟨_, y, ⟨⟩, rfl, equal⟩ | ⟨_, _, ⟨⟩, -⟩ | ⟨_, _, ⟨⟩, -⟩
    · exact second
    rcases same_cases second with rfl | ⟨_, z, ⟨⟩, rfl, equal'⟩ | ⟨_, _, ⟨⟩, -⟩ | ⟨_, _, ⟨⟩, -⟩
    · exact first
    exact Binary64.beq_trans equal equal'
  | _ =>
    rcases same_cases first with rfl | ⟨_, _, ⟨⟩, -⟩ | ⟨_, _, ⟨⟩, -⟩ | ⟨_, _, ⟨⟩, -⟩
    exact second

/-- Equal values in which no object holds two members of one name. -/
structure Equal (v w : Json) : Prop where
  distinct : v.Distinct
  distinct' : w.Distinct
  same : same v w = true

def EqualMember (p q : String × Json) : Prop := p.1 = q.1 ∧ Equal p.2 q.2

namespace Equal

variable {v w : Json}

theorem refl (h : v.Distinct) : Equal v v := ⟨h, h, h.same_self⟩

theorem symm (h : Equal v w) : Equal w v :=
  ⟨h.distinct', h.distinct, h.distinct.same_symm h.distinct' h.same⟩

theorem trans {u : Json} (first : Equal u v) (second : Equal v w) : Equal u w :=
  ⟨first.distinct, second.distinct',
    first.distinct.same_trans first.distinct' second.distinct' first.same second.same⟩

theorem isNull (h : Equal v w) : v.isNull = w.isNull := same_isNull h.same

theorem arr_iff {vs ws : List Json} : Equal (.arr vs) (.arr ws) ↔ List.Forall₂ Equal vs ws := by
  constructor
  · intro h
    refine (forall₂_mem (same_arr_iff.mp h.same)).imp ?_
    rintro v w ⟨hv, hw, equal⟩
    exact ⟨h.distinct.of_mem_arr hv, h.distinct'.of_mem_arr hw, equal⟩
  · intro related
    have each : ∀ v ∈ vs, v.Distinct := fun v hv => by
      obtain ⟨w, -, h⟩ := Multiset.exists_mem_of_rel_of_mem (rel_of_forall₂ related) hv
      exact h.distinct
    have each' : ∀ w ∈ ws, w.Distinct := fun w hw => by
      obtain ⟨v, -, h⟩ := exists_mem_left (rel_of_forall₂ related) hw
      exact h.distinct'
    exact ⟨.arr each, .arr each', same_arr_iff.mpr (related.imp fun _ _ h => h.same)⟩

theorem obj_iff {ms ns : Dict Json} : Equal (.obj ms) (.obj ns) ↔ ms.keys.Nodup ∧
    Multiset.Rel EqualMember (ms : Multiset (String × Json)) ns := by
  constructor
  · intro h
    refine ⟨h.distinct.keys_nodup, ?_⟩
    have related := (same_obj_iff h.distinct.keys_nodup h.distinct'.keys_nodup).mp h.same
    exact related.mono fun p hp q hq equal => ⟨equal.1, Members.distinct_of_mem h.distinct hp,
      Members.distinct_of_mem h.distinct' hq, equal.2⟩
  · rintro ⟨names, related⟩
    have names' : ns.keys.Nodup :=
      (Dict.perm_keys related fun _ _ h => h.1).nodup_iff.mp names
    have each : ∀ p ∈ ms, p.2.Distinct := fun p hp => by
      obtain ⟨q, -, h⟩ := Multiset.exists_mem_of_rel_of_mem related hp
      exact h.2.distinct
    have each' : ∀ q ∈ ns, q.2.Distinct := fun q hq => by
      obtain ⟨p, -, h⟩ := exists_mem_left related hq
      exact h.2.distinct'
    exact ⟨.obj names each, .obj names' each', (same_obj_iff names names').mpr
      (related.mono fun _ _ _ _ h => ⟨h.1, h.2.same⟩)⟩

/-- Equal values are of one form, and so are their parts. -/
theorem cases (h : Equal v w) :
    (v = w ∧ v.arr? = none ∧ v.obj? = none) ∨
      (∃ x y, v = .real x ∧ w = .real y ∧ (x == y) = true) ∨
      (∃ vs ws, v = .arr vs ∧ w = .arr ws ∧ List.Forall₂ Equal vs ws) ∨
        ∃ ms ns, v = .obj ms ∧ w = .obj ns ∧
          Multiset.Rel EqualMember (ms : Multiset (String × Json)) ns := by
  have array : ∀ {vs ws}, v = .arr vs → w = .arr ws → ∃ vs ws, v = .arr vs ∧ w = .arr ws ∧
      List.Forall₂ Equal vs ws := by
    rintro vs ws rfl rfl
    exact ⟨vs, ws, rfl, rfl, arr_iff.mp h⟩
  have object : ∀ {ms ns}, v = .obj ms → w = .obj ns → ∃ ms ns, v = .obj ms ∧ w = .obj ns ∧
      Multiset.Rel EqualMember (ms : Multiset (String × Json)) ns := by
    rintro ms ns rfl rfl
    exact ⟨ms, ns, rfl, rfl, (obj_iff.mp h).2⟩
  rcases same_cases h.same with rfl | reals | ⟨vs, ws, first, second⟩ | ⟨ms, ns, first, second⟩
  · cases v with
    | arr vs => exact Or.inr (Or.inr (Or.inl (array rfl rfl)))
    | obj ms => exact Or.inr (Or.inr (Or.inr (object rfl rfl)))
    | _ => exact Or.inl ⟨rfl, rfl, rfl⟩
  · exact Or.inr (Or.inl reals)
  · exact Or.inr (Or.inr (Or.inl (array first second)))
  · exact Or.inr (Or.inr (Or.inr (object first second)))

end Equal

end Json

end Jadn
