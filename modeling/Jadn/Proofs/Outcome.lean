import Mathlib.Data.List.Forall2

/-!
Results that may be errors: when sequences of steps succeed, what their errors have in common,
and what remains of a result once the text of its error is forgotten.
-/

set_option autoImplicit false

namespace Except

universe u v w
variable {ε ε' : Type u} {α β : Type v}

theorem bind_eq_ok_iff {x : Except ε α} {f : α → Except ε β} {b : β} :
    x >>= f = .ok b ↔ ∃ a, x = .ok a ∧ f a = .ok b := by
  cases x <;> simp [bind, Except.bind]

theorem bind_eq_error_iff {x : Except ε α} {f : α → Except ε β} {e : ε} :
    x >>= f = .error e ↔ x = .error e ∨ ∃ a, x = .ok a ∧ f a = .error e := by
  cases x <;> simp [bind, Except.bind]

theorem map_eq_ok_iff {x : Except ε α} {f : α → β} {b : β} :
    f <$> x = .ok b ↔ ∃ a, x = .ok a ∧ f a = b := by
  cases x <;> simp [Functor.map, Except.map]

theorem map_eq_error_iff {x : Except ε α} {f : α → β} {e : ε} :
    f <$> x = .error e ↔ x = .error e := by
  cases x <;> simp [Functor.map, Except.map]

theorem toOption_eq_some_iff {x : Except ε α} {a : α} : x.toOption = some a ↔ x = .ok a := by
  cases x <;> simp [Except.toOption]

theorem toOption_ok (a : α) : (ok a : Except ε α).toOption = some a := rfl

theorem toOption_error (e : ε) : (error e : Except ε α).toOption = none := rfl

theorem toOption_pure (a : α) : (pure a : Except ε α).toOption = some a := rfl

theorem toOption_mapError (f : ε → ε') (x : Except ε α) :
    (x.mapError f).toOption = x.toOption := by
  cases x <;> rfl

theorem toOption_bind (x : Except ε α) (f : α → Except ε β) :
    (x >>= f).toOption = x.toOption.bind fun a => (f a).toOption := by
  cases x <;> rfl

theorem toOption_bind_congr {x y : Except ε α} {f g : α → Except ε β}
    (first : x.toOption = y.toOption) (rest : ∀ a, (f a).toOption = (g a).toOption) :
    (x >>= f).toOption = (y >>= g).toOption := by
  simp only [toOption_bind, first, rest]

theorem toOption_forM_congr {γ δ : Type w} {R : γ → δ → Prop} {f : γ → Except ε PUnit}
    {g : δ → Except ε PUnit} {xs : List γ} {ys : List δ}
    (h : List.Forall₂ R xs ys) (step : ∀ x y, R x y → (f x).toOption = (g y).toOption) :
    (xs.forM f).toOption = (ys.forM g).toOption := by
  induction h with
  | nil => rfl
  | cons head tail ih =>
    simp only [List.forM, toOption_bind, step _ _ head, ih]

theorem toOption_forM_eq {γ : Type w} {f g : γ → Except ε PUnit} (xs : List γ)
    (step : ∀ x, (f x).toOption = (g x).toOption) :
    (xs.forM f).toOption = (xs.forM g).toOption :=
  toOption_forM_congr (R := Eq) (List.forall₂_eq_eq_eq ▸ rfl) fun x _ same => same ▸ step x

/-- Steps that go on alike from results alike end alike. -/
theorem map_bind_congr {γ δ : Type v} {x y : Except ε α} {f g : α → Except ε β} {p : α → γ}
    {q : β → δ} (first : x.map p = y.map p)
    (rest : ∀ a b, p a = p b → (f a).map q = (g b).map q) :
    (x >>= f).map q = (y >>= g).map q := by
  cases x <;> cases y <;> simp only [Except.map, error.injEq, ok.injEq, reduceCtorEq] at first
  · rw [first]
    rfl
  · exact rest _ _ first

theorem map_foldlM_congr {γ : Type w} {δ : Type v} {f g : β → γ → Except ε β} {p : β → δ}
    (step : ∀ a b x, p a = p b → (f a x).map p = (g b x).map p) (xs : List γ) {a b : β}
    (start : p a = p b) : (xs.foldlM f a).map p = (xs.foldlM g b).map p := by
  induction xs generalizing a b with
  | nil => exact congrArg Except.ok start
  | cons x xs ih =>
    rw [List.foldlM_cons, List.foldlM_cons]
    exact map_bind_congr (step a b x start) fun _ _ same => ih same

theorem map_mapError_congr {γ : Type v} {x y : Except ε α} {p : α → γ} {h : ε → ε'}
    (same : x.map p = y.map p) : (x.mapError h).map p = (y.mapError h).map p := by
  cases x <;> cases y <;> simp_all [Except.map, Except.mapError]

theorem exists_ok_of_map_eq {γ : Type v} {x y : Except ε α} {p : α → γ} (same : x.map p = y.map p)
    {a : α} (h : x = .ok a) : ∃ b, y = .ok b ∧ p a = p b := by
  subst h
  cases y with
  | error e => cases same
  | ok b => exact ⟨b, rfl, Except.ok.inj same⟩

theorem mapError_eq_ok_iff {x : Except ε α} {f : ε → ε'} {a : α} :
    x.mapError f = .ok a ↔ x = .ok a := by
  cases x <;> simp [Except.mapError]

theorem mapError_eq_error_iff {x : Except ε α} {f : ε → ε'} {e : ε'} :
    x.mapError f = .error e ↔ ∃ own, x = .error own ∧ f own = e := by
  cases x <;> simp [Except.mapError]

theorem forM_eq_ok_iff {γ : Type w} {f : γ → Except ε PUnit} {xs : List γ} :
    List.forM xs f = .ok ⟨⟩ ↔ ∀ x ∈ xs, f x = .ok ⟨⟩ := by
  induction xs with
  | nil => simp [List.forM, pure, Except.pure]
  | cons x xs ih =>
    rw [List.forM, bind_eq_ok_iff]
    simp only [ih, List.mem_cons, forall_eq_or_imp]
    constructor
    · rintro ⟨⟨⟩, head, tail⟩
      exact ⟨head, tail⟩
    · rintro ⟨head, tail⟩
      exact ⟨_, head, tail⟩

theorem mapM_eq_ok_iff {f : α → Except ε β} {xs : List α} {ys : List β} :
    xs.mapM f = .ok ys ↔ List.Forall₂ (fun x y => f x = .ok y) xs ys := by
  induction xs generalizing ys with
  | nil => cases ys <;> simp [pure, Except.pure]
  | cons x xs ih =>
    rw [List.mapM_cons, bind_eq_ok_iff]
    simp only [bind_eq_ok_iff, pure, Except.pure, Except.ok.injEq, ih, List.forall₂_cons_left_iff]
    constructor
    · rintro ⟨y, hy, zs, hzs, rfl⟩
      exact ⟨y, zs, hy, hzs, rfl⟩
    · rintro ⟨y, zs, hy, hzs, rfl⟩
      exact ⟨y, hy, zs, hzs, rfl⟩

theorem exists_of_mem_mapM {f : α → Except ε β} {xs : List α} {ys : List β}
    (h : xs.mapM f = .ok ys) {y : β} (hy : y ∈ ys) : ∃ x ∈ xs, f x = .ok y := by
  have steps := mapM_eq_ok_iff.mp h
  clear h
  induction steps with
  | nil => cases hy
  | cons head _ ih =>
    rcases List.mem_cons.mp hy with rfl | later
    · exact ⟨_, List.mem_cons_self, head⟩
    · obtain ⟨x, hx, same⟩ := ih later
      exact ⟨x, List.mem_cons_of_mem _ hx, same⟩

theorem foldlM_induction {γ : Type w} {f : β → γ → Except ε β} {xs : List γ} {b b' : β}
    (P : β → Prop) (step : ∀ b x b', x ∈ xs → P b → f b x = .ok b' → P b') (start : P b)
    (h : xs.foldlM f b = .ok b') : P b' := by
  induction xs generalizing b with
  | nil =>
    simp only [List.foldlM_nil, pure, Except.pure, Except.ok.injEq] at h
    exact h ▸ start
  | cons x xs ih =>
    rw [List.foldlM_cons, bind_eq_ok_iff] at h
    obtain ⟨c, hc, h⟩ := h
    exact ih (fun b x b' hx => step b x b' (by simp [hx])) (step b x c (by simp) start hc) h

/-- A fold that succeeds took each of its steps, from where what steps keep holds. -/
theorem exists_step_of_foldlM {γ : Type w} {f : β → γ → Except ε β} {xs : List γ} {b b' : β}
    (P : β → Prop) (keep : ∀ b x b', x ∈ xs → P b → f b x = .ok b' → P b') (start : P b)
    (h : xs.foldlM f b = .ok b') {x : γ} (hx : x ∈ xs) : ∃ c c', P c ∧ f c x = .ok c' := by
  induction xs generalizing b with
  | nil => cases hx
  | cons y ys ih =>
    rw [List.foldlM_cons, bind_eq_ok_iff] at h
    obtain ⟨c, first, rest⟩ := h
    rcases List.mem_cons.mp hx with rfl | later
    · exact ⟨b, c, start, first⟩
    · exact ih (fun b z b' hz => keep b z b' (List.mem_cons_of_mem _ hz))
        (keep b y c List.mem_cons_self start first) rest later

theorem exists_foldlM_eq_ok_iff {γ : Type w} {f : β → γ → Except ε β} {xs : List γ} {b : β}
    (I : β → Prop) {P : γ → Prop} (keep : ∀ b x b', x ∈ xs → I b → f b x = .ok b' → I b')
    (step : ∀ b x, x ∈ xs → I b → ((∃ b', f b x = .ok b') ↔ P x)) (start : I b) :
    (∃ b', xs.foldlM f b = .ok b') ↔ ∀ x ∈ xs, P x := by
  induction xs generalizing b with
  | nil => simp [pure, Except.pure]
  | cons x xs ih =>
    have rest : ∀ c, f b x = .ok c → ((∃ b', xs.foldlM f c = .ok b') ↔ ∀ y ∈ xs, P y) :=
      fun c hc => ih (fun b y b' hy => keep b y b' (List.mem_cons_of_mem _ hy))
        (fun b y hy => step b y (List.mem_cons_of_mem _ hy))
        (keep b x c List.mem_cons_self start hc)
    have first := step b x List.mem_cons_self start
    simp only [List.foldlM_cons, bind_eq_ok_iff, List.mem_cons, forall_eq_or_imp]
    constructor
    · rintro ⟨b', c, hc, h⟩
      exact ⟨first.mp ⟨c, hc⟩, (rest c hc).mp ⟨b', h⟩⟩
    · rintro ⟨fit, others⟩
      obtain ⟨c, hc⟩ := first.mpr fit
      obtain ⟨b', h⟩ := (rest c hc).mpr others
      exact ⟨b', c, hc, h⟩

/-- The error of a result, if it is one, is as described. -/
def FailsWith (P : ε → Prop) (x : Except ε α) : Prop := ∀ e, x = .error e → P e

namespace FailsWith

variable {P Q : ε → Prop}

theorem ok (a : α) : FailsWith P (.ok a) := nofun

theorem error {e : ε} (h : P e) : FailsWith P (.error e : Except ε α) := by
  intro _ same
  cases same
  exact h

theorem mono {x : Except ε α} (h : FailsWith P x) (weaken : ∀ e, P e → Q e) : FailsWith Q x :=
  fun e same => weaken e (h e same)

theorem bind {x : Except ε α} {f : α → Except ε β} (first : FailsWith P x)
    (rest : ∀ a, x = .ok a → FailsWith P (f a)) : FailsWith P (x >>= f) := by
  intro e h
  rcases bind_eq_error_iff.mp h with here | ⟨a, same, later⟩
  · exact first e here
  · exact rest a same e later

theorem ite {p : Prop} [Decidable p] {x y : Except ε α} (yes : FailsWith P x)
    (no : FailsWith P y) : FailsWith P (if p then x else y) := by
  split
  · exact yes
  · exact no

theorem mapError {P : ε' → Prop} {x : Except ε α} {f : ε → ε'}
    (h : FailsWith (fun e => P (f e)) x) : FailsWith P (x.mapError f) := by
  intro e same
  obtain ⟨own, here, rfl⟩ := mapError_eq_error_iff.mp same
  exact h own here

theorem forM {γ : Type w} {f : γ → Except ε PUnit} {xs : List γ}
    (each : ∀ x ∈ xs, FailsWith P (f x)) : FailsWith P (xs.forM f) := by
  induction xs with
  | nil => exact .ok _
  | cons x xs ih =>
    refine (each x List.mem_cons_self).bind fun _ _ => ih fun y hy => ?_
    exact each y (List.mem_cons_of_mem _ hy)

/-- A fold fails as one of its steps does, from where what steps keep holds. -/
theorem foldlM {γ : Type w} {f : β → γ → Except ε β} {xs : List γ} {b : β} (I : β → Prop)
    (keep : ∀ b x b', x ∈ xs → I b → f b x = .ok b' → I b')
    (each : ∀ b x, x ∈ xs → I b → FailsWith P (f b x)) (start : I b) :
    FailsWith P (xs.foldlM f b) := by
  induction xs generalizing b with
  | nil => exact .ok _
  | cons x xs ih =>
    rw [List.foldlM_cons]
    refine (each b x List.mem_cons_self start).bind fun c first => ?_
    exact ih (fun b y b' hy => keep b y b' (List.mem_cons_of_mem _ hy))
      (fun b y hy => each b y (List.mem_cons_of_mem _ hy))
      (keep b x c List.mem_cons_self start first)

end FailsWith
end Except

theorem Option.foldlM_induction {α β : Type} {f : β → α → Option β} {xs : List α} {b b' : β}
    (P : β → Prop) (step : ∀ b x b', x ∈ xs → P b → f b x = some b' → P b') (start : P b)
    (h : xs.foldlM f b = some b') : P b' := by
  induction xs generalizing b with
  | nil => exact Option.some.inj h ▸ start
  | cons x xs ih =>
    rw [List.foldlM_cons] at h
    obtain ⟨c, first, rest⟩ := Option.bind_eq_some_iff.mp h
    exact ih (fun b y b' hy => step b y b' (List.mem_cons_of_mem _ hy))
      (step b x c List.mem_cons_self start first) rest
