import Jadn.Pattern
import Mathlib.Data.Finset.Card

/-!
What a pattern matches, without sets of places.

`Node.Matches` says of two places in a text that a match runs from one to the other. The search by
sets of places finds just these matches: a repetition may stop as soon as nothing changes or no new
place is reached, since there are no more places than the text has characters.
-/

set_option autoImplicit false

namespace Jadn.Pattern

/-- So many steps of a relation in turn. -/
inductive Steps (r : Nat → Nat → Prop) : Nat → Nat → Nat → Prop where
  | nil (i : Nat) : Steps r 0 i i
  | cons {n i j k : Nat} (first : r i j) (rest : Steps r n j k) : Steps r (n + 1) i k

/-- A match runs from one place in a text to another. A bound of a repetition below its least count
counts as the least count. -/
def Node.Matches (text : Chars) : Node → Nat → Nat → Prop
  | .empty, i, j => i = j
  | .chars set, i, j => (text[i]?).any set.contains = true ∧ j = i + 1
  | .place p, i, j => p.holds text i = true ∧ i = j
  | .seq a b, i, j => ∃ k, a.Matches text i k ∧ b.Matches text k j
  | .alt a b, i, j => a.Matches text i j ∨ b.Matches text i j
  | .repetition least most? body, i, j =>
    ∃ n, least ≤ n ∧ (∀ most, most? = some most → n ≤ max least most) ∧
      Steps (body.Matches text) n i j
  | .group body, i, j => body.Matches text i j

section Steps

variable {r : Nat → Nat → Prop}

theorem Steps.append {n m i j k : Nat} (first : Steps r n i j) (rest : Steps r m j k) :
    Steps r (n + m) i k := by
  induction first with
  | nil i => exact (Nat.zero_add m).symm ▸ rest
  | @cons n _ _ _ step _ ih => exact Nat.add_right_comm n 1 m ▸ .cons step (ih rest)

theorem Steps.split {n m i k : Nat} (h : Steps r (n + m) i k) :
    ∃ j, Steps r n i j ∧ Steps r m j k := by
  induction n generalizing i with
  | zero => exact ⟨i, .nil i, Nat.zero_add m ▸ h⟩
  | succ n ih =>
    rw [Nat.add_right_comm] at h
    cases h with
    | cons first rest =>
      obtain ⟨j, steps, others⟩ := ih rest
      exact ⟨j, .cons first steps, others⟩

theorem steps_zero_iff {i j : Nat} : Steps r 0 i j ↔ i = j := by
  constructor
  · rintro ⟨⟩
    rfl
  · rintro rfl
    exact .nil i

theorem steps_succ_iff {n i k : Nat} : Steps r (n + 1) i k ↔ ∃ j, r i j ∧ Steps r n j k := by
  constructor
  · rintro (_ | ⟨first, rest⟩)
    exact ⟨_, first, rest⟩
  · rintro ⟨j, first, rest⟩
    exact .cons first rest

theorem Steps.closed {P : Nat → Prop} (keeps : ∀ i j, P i → r i j → P j) {n i j : Nat}
    (h : Steps r n i j) (start : P i) : P j := by
  induction h with
  | nil => exact start
  | cons first _ ih => exact ih (keeps _ _ start first)

end Steps

theorem Node.Matches.le_size {text : Chars} {n : Node} {i j : Nat} (h : n.Matches text i j)
    (start : i ≤ text.size) : j ≤ text.size := by
  induction n generalizing i j with
  | empty => exact h ▸ start
  | chars set =>
    obtain ⟨here, rfl⟩ := h
    by_contra outside
    have : text[i]? = none := Array.getElem?_eq_none (by omega)
    simp [this] at here
  | place p => exact h.2 ▸ start
  | seq a b first second =>
    obtain ⟨k, left, right⟩ := h
    exact second right (first left start)
  | alt a b first second =>
    rcases h with left | right
    · exact first left start
    · exact second right start
  | repetition least most? body ih =>
    obtain ⟨n, -, -, steps⟩ := h
    exact steps.closed (fun _ _ inside step => ih step inside) start
  | group body ih => exact ih h start

section Search

variable {step : Places → Places} {r : Nat → Nat → Prop} {bound : Nat}

/-- A function on sets of places takes each place to those that a relation leads to. -/
def Computes (bound : Nat) (step : Places → Places) (r : Nat → Nat → Prop) : Prop :=
  ∀ s, (∀ i ∈ s, i ≤ bound) → ∀ j, j ∈ step s ↔ ∃ i ∈ s, r i j

theorem Computes.le (computes : Computes bound step r)
    (keeps : ∀ i j, i ≤ bound → r i j → j ≤ bound)
    {s : Places} (within : ∀ i ∈ s, i ≤ bound) : ∀ j ∈ step s, j ≤ bound := by
  intro j hj
  obtain ⟨i, hi, related⟩ := (computes s within j).mp hj
  exact keeps i j (within i hi) related

theorem mem_iterate_iff (computes : Computes bound step r)
    (keeps : ∀ i j, i ≤ bound → r i j → j ≤ bound) {n : Nat} {s : Places}
    (within : ∀ i ∈ s, i ≤ bound) {j : Nat} :
    j ∈ iterate step n s ↔ ∃ i ∈ s, Steps r n i j := by
  induction n generalizing s with
  | zero => simp [iterate, steps_zero_iff]
  | succ n ih =>
    have moved : (∃ i ∈ step s, Steps r n i j) ↔ ∃ i ∈ s, Steps r (n + 1) i j := by
      simp only [computes s within, steps_succ_iff]
      constructor
      · rintro ⟨k, ⟨i, hi, first⟩, rest⟩
        exact ⟨i, hi, k, first, rest⟩
      · rintro ⟨i, hi, k, first, rest⟩
        exact ⟨k, ⟨i, hi, first⟩, rest⟩
    rw [← moved]
    unfold iterate
    dsimp only
    by_cases same : step s = s
    · rw [if_pos same, same, ← ih within]
      -- `iterate` stops at once on what a step does not change.
      cases n with
      | zero => rfl
      | succ n => simp [iterate, same]
    · rw [if_neg same]
      exact ih (computes.le keeps within)

/-- Outside of `new`, every place that was reached has been gone on from. -/
def Explored (r : Nat → Nat → Prop) (reached new : Places) : Prop :=
  new ⊆ reached ∧ ∀ i ∈ reached, i ∉ new → ∀ j, r i j → j ∈ reached

theorem Explored.start {r : Nat → Nat → Prop} (s : Places) : Explored r s s :=
  ⟨List.Subset.refl s, fun _ old new => absurd old new⟩

theorem Explored.through {reached new : Places} (explored : Explored r reached new) {n i j : Nat}
    (start : i ∈ reached) (steps : Steps r n i j) :
    j ∈ reached ∨ ∃ k ∈ new, ∃ m ≤ n, Steps r m k j := by
  induction steps with
  | nil => exact .inl start
  | @cons n i k j first rest ih =>
    by_cases fresh : i ∈ new
    · exact .inr ⟨i, fresh, n + 1, Nat.le_refl _, .cons first rest⟩
    · rcases ih (explored.2 i start fresh k first) with inside | ⟨l, hl, m, fewer, others⟩
      · exact .inl inside
      · exact .inr ⟨l, hl, m, Nat.le_succ_of_le fewer, others⟩

variable (computes : Computes bound step r)
include computes

theorem Explored.next {reached new : Places} (explored : Explored r reached new)
    (within : ∀ i ∈ reached, i ≤ bound) :
    Explored r (reached ++ (step new).filter fun i => !reached.contains i)
      ((step new).filter fun i => !reached.contains i) := by
  refine ⟨List.subset_append_right _ _, fun i hi old j related => ?_⟩
  have before : i ∈ reached := (List.mem_append.mp hi).resolve_right old
  by_cases known : j ∈ reached
  · exact List.mem_append_left _ known
  · by_cases fresh : i ∈ new
    · have found : j ∈ step new :=
        (computes new (fun k hk => within k (explored.1 hk)) j).mpr ⟨i, fresh, related⟩
      exact List.mem_append_right _ (List.mem_filter.mpr ⟨found, by simpa using known⟩)
    · exact absurd (explored.2 i before fresh j related) known

theorem Explored.closed {reached new : Places} (explored : Explored r reached new)
    (within : ∀ i ∈ reached, i ≤ bound)
    (nothing : ((step new).filter fun i => !reached.contains i) = []) :
    ∀ i j, i ∈ reached → r i j → j ∈ reached := by
  intro i j hi related
  by_cases fresh : i ∈ new
  · by_contra unknown
    have found : j ∈ step new :=
      (computes new (fun k hk => within k (explored.1 hk)) j).mpr ⟨i, fresh, related⟩
    have : j ∈ (step new).filter fun i => !reached.contains i :=
      List.mem_filter.mpr ⟨found, by simpa using unknown⟩
    rw [nothing] at this
    cases this
  · exact explored.2 i hi fresh j related

variable (keeps : ∀ i j, i ≤ bound → r i j → j ≤ bound)
include keeps

theorem Explored.next_within {reached new : Places} (explored : Explored r reached new)
    (within : ∀ i ∈ reached, i ≤ bound) :
    ∀ i ∈ reached ++ (step new).filter fun i => !reached.contains i, i ≤ bound := by
  intro i hi
  rcases List.mem_append.mp hi with old | found
  · exact within i old
  · exact computes.le keeps (fun k hk => within k (explored.1 hk)) i (List.mem_filter.mp found).1

/-- A search finds what is reached from the new places in so many rounds. -/
theorem mem_closure_iff {n : Nat} {reached new : Places} (explored : Explored r reached new)
    (within : ∀ i ∈ reached, i ≤ bound) {j : Nat} :
    j ∈ closure step n reached new ↔ j ∈ reached ∨ ∃ i ∈ new, ∃ m ≤ n, Steps r m i j := by
  induction n generalizing reached new with
  | zero =>
    refine ⟨.inl, ?_⟩
    rintro (old | ⟨i, hi, m, none, steps⟩)
    · exact old
    · obtain rfl := Nat.le_zero.mp none
      exact steps_zero_iff.mp steps ▸ explored.1 hi
  | succ n ih =>
    have later := explored.next computes within
    have inside := explored.next_within computes keeps within
    have reachable : ∀ {i}, i ∈ new → i ∈ reached := fun hi => explored.1 hi
    unfold closure
    split
    · next nothing =>
      refine ⟨.inl, ?_⟩
      rintro (old | ⟨i, hi, m, -, steps⟩)
      · exact old
      · exact steps.closed (explored.closed computes within nothing) (reachable hi)
    · rw [ih later inside]
      constructor
      · rintro (known | ⟨i, hi, m, few, steps⟩)
        · rcases List.mem_append.mp known with old | found
          · exact .inl old
          · obtain ⟨i, hi, first⟩ := (computes new (fun k hk => within k (explored.1 hk)) j).mp
              (List.mem_filter.mp found).1
            exact .inr ⟨i, hi, 1, by omega, .cons first (.nil j)⟩
        · obtain ⟨k, hk, first⟩ := (computes new (fun k hk => within k (explored.1 hk)) i).mp
            (List.mem_filter.mp hi).1
          exact .inr ⟨k, hk, m + 1, by omega, .cons first steps⟩
      · rintro (old | ⟨i, hi, m, few, steps⟩)
        · exact .inl (List.mem_append_left _ old)
        · cases steps with
          | nil => exact .inl (List.mem_append_left _ (reachable hi))
          | @cons m _ k _ first rest =>
            have known : k ∈ reached ++ (step new).filter fun i => !reached.contains i := by
              by_cases old : k ∈ reached
              · exact List.mem_append_left _ old
              · have found : k ∈ step new :=
                  (computes new (fun l hl => within l (explored.1 hl)) k).mpr ⟨i, hi, first⟩
                exact List.mem_append_right _ (List.mem_filter.mpr ⟨found, by simpa using old⟩)
            rcases later.through known rest with inside | ⟨l, hl, m', fewer, others⟩
            · exact .inl inside
            · exact .inr ⟨l, hl, m', by omega, others⟩

def unreached (bound : Nat) (reached : Places) : Finset Nat :=
  (Finset.range (bound + 1)).filter (· ∉ reached)

omit computes keeps in
theorem mem_unreached {reached : Places} {i : Nat} :
    i ∈ unreached bound reached ↔ i ≤ bound ∧ i ∉ reached := by
  rw [unreached, Finset.mem_filter, Finset.mem_range, Nat.lt_add_one_iff]

omit computes keeps in
theorem card_unreached_lt {reached new : Places} {i : Nat} (inside : i ≤ bound)
    (fresh : i ∉ reached) (found : i ∈ new) :
    (unreached bound (reached ++ new)).card < (unreached bound reached).card := by
  apply Finset.card_lt_card
  rw [Finset.ssubset_iff_of_subset]
  · refine ⟨i, ?_, ?_⟩
    · exact mem_unreached.mpr ⟨inside, fresh⟩
    · exact fun missed => (mem_unreached.mp missed).2 (List.mem_append_right _ found)
  · intro k hk
    obtain ⟨within, missing⟩ := mem_unreached.mp hk
    exact mem_unreached.mpr ⟨within, fun old => missing (List.mem_append_left _ old)⟩

omit computes keeps in
theorem card_unreached_le (reached : Places) : (unreached bound reached).card ≤ bound + 1 := by
  have := Finset.card_filter_le (Finset.range (bound + 1)) (· ∉ reached)
  rwa [Finset.card_range] at this

theorem mem_closure_of_steps {n : Nat} {reached new : Places} (explored : Explored r reached new)
    (within : ∀ i ∈ reached, i ≤ bound) (enough : (unreached bound reached).card ≤ n)
    {m i j : Nat} (start : i ∈ reached) (steps : Steps r m i j) :
    j ∈ closure step n reached new := by
  induction n generalizing reached new with
  | zero =>
    have inside : j ≤ bound := steps.closed keeps (within i start)
    have none := Finset.card_eq_zero.mp (Nat.le_zero.mp enough)
    by_contra missing
    have left : j ∈ unreached bound reached :=
      mem_unreached.mpr ⟨inside, missing⟩
    rw [none] at left
    cases left
  | succ n ih =>
    unfold closure
    split
    · next nothing => exact steps.closed (explored.closed computes within nothing) start
    · next something =>
      obtain ⟨k, hk⟩ := List.exists_mem_of_ne_nil _ something
      have inside := explored.next_within computes keeps within
      have fewer := card_unreached_lt (inside k (List.mem_append_right _ hk))
        (by simpa using (List.mem_filter.mp hk).2) hk
      exact ih (explored.next computes within) inside (by omega) (List.mem_append_left _ start)

theorem mem_closure_start {n : Nat} {s : Places} (within : ∀ i ∈ s, i ≤ bound) {j : Nat} :
    j ∈ closure step n s s ↔ ∃ i ∈ s, ∃ m ≤ n, Steps r m i j := by
  rw [mem_closure_iff computes keeps (Explored.start s) within]
  constructor
  · rintro (start | later)
    · exact ⟨j, start, 0, Nat.zero_le n, .nil j⟩
    · exact later
  · exact .inr

/-- A search for more rounds than there are places finds what is reached at all. -/
theorem mem_closure_all {s : Places} (within : ∀ i ∈ s, i ≤ bound) {j : Nat} :
    j ∈ closure step (bound + 1) s s ↔ ∃ i ∈ s, ∃ m, Steps r m i j := by
  constructor
  · intro found
    obtain ⟨i, hi, m, -, steps⟩ := (mem_closure_start computes keeps within).mp found
    exact ⟨i, hi, m, steps⟩
  · rintro ⟨i, hi, m, steps⟩
    exact mem_closure_of_steps computes keeps (Explored.start s) within (card_unreached_le s) hi
      steps

theorem mem_closure_min {most : Nat} {s : Places} (within : ∀ i ∈ s, i ≤ bound) {j : Nat} :
    j ∈ closure step (min most (bound + 1)) s s ↔ ∃ i ∈ s, ∃ m ≤ most, Steps r m i j := by
  rcases Nat.le_total most (bound + 1) with less | more
  · rw [Nat.min_eq_left less, mem_closure_start computes keeps within]
  · rw [Nat.min_eq_right more]
    constructor
    · intro found
      obtain ⟨i, hi, m, few, steps⟩ := (mem_closure_start computes keeps within).mp found
      exact ⟨i, hi, m, few.trans more, steps⟩
    · rintro ⟨i, hi, m, -, steps⟩
      exact (mem_closure_all computes keeps within).mpr ⟨i, hi, m, steps⟩

end Search

theorem Node.computes_repetition {text : Chars} {body : Node}
    (ih : Computes text.size (body.ends text) (body.Matches text)) (least : Nat)
    (most? : Option Nat) :
    Computes text.size ((Node.repetition least most? body).ends text)
      ((Node.repetition least most? body).Matches text) := by
  intro s within j
  have keeps : ∀ i j, i ≤ text.size → body.Matches text i j → j ≤ text.size :=
    fun _ _ start h => h.le_size start
  have least_iff : ∀ k, k ∈ iterate (body.ends text) least s ↔
      ∃ i ∈ s, Steps (body.Matches text) least i k :=
    fun k => mem_iterate_iff ih keeps within
  have inside : ∀ k ∈ iterate (body.ends text) least s, k ≤ text.size := by
    intro k hk
    obtain ⟨i, hi, steps⟩ := (least_iff k).mp hk
    exact steps.closed keeps (within i hi)
  cases most? with
  | none =>
    simp only [Node.ends, Node.Matches, mem_closure_all ih keeps inside, least_iff]
    constructor
    · rintro ⟨k, ⟨i, hi, first⟩, m, rest⟩
      exact ⟨i, hi, least + m, Nat.le_add_right _ _, nofun, first.append rest⟩
    · rintro ⟨i, hi, n, enough, -, steps⟩
      obtain ⟨m, rfl⟩ := Nat.exists_eq_add_of_le enough
      obtain ⟨k, first, rest⟩ := steps.split
      exact ⟨k, ⟨i, hi, first⟩, m, rest⟩
  | some most =>
    simp only [Node.ends, Node.Matches, mem_closure_min ih keeps inside, least_iff,
      Option.some.injEq, forall_eq']
    constructor
    · rintro ⟨k, ⟨i, hi, first⟩, m, few, rest⟩
      exact ⟨i, hi, least + m, Nat.le_add_right _ _, by omega, first.append rest⟩
    · rintro ⟨i, hi, n, enough, few, steps⟩
      obtain ⟨m, rfl⟩ := Nat.exists_eq_add_of_le enough
      obtain ⟨k, first, rest⟩ := steps.split
      exact ⟨k, ⟨i, hi, first⟩, m, by omega, rest⟩

/-- Sets of places are taken to where the matches from them end. -/
theorem Node.computes (text : Chars) (n : Node) :
    Computes text.size (n.ends text) (n.Matches text) := by
  induction n with
  | empty =>
    intro s _ j
    simp [Node.ends, Node.Matches]
  | chars set =>
    intro s _ j
    simp only [Node.ends, Node.Matches, List.mem_map, List.mem_filter, and_assoc]
    exact exists_congr fun i => and_congr_right fun _ => and_congr_right fun _ => eq_comm
  | place p =>
    intro s _ j
    simp only [Node.ends, Node.Matches, List.mem_filter]
    constructor
    · rintro ⟨hj, holds⟩
      exact ⟨j, hj, holds, rfl⟩
    · rintro ⟨i, hi, holds, rfl⟩
      exact ⟨hi, holds⟩
  | seq a b first second =>
    intro s within j
    have middle := first.le (fun _ _ start h => Node.Matches.le_size h start) within
    simp only [Node.ends, Node.Matches, second _ middle, first s within]
    constructor
    · rintro ⟨k, ⟨i, hi, left⟩, right⟩
      exact ⟨i, hi, k, left, right⟩
    · rintro ⟨i, hi, k, left, right⟩
      exact ⟨k, ⟨i, hi, left⟩, right⟩
  | alt a b first second =>
    intro s within j
    have union : j ∈ (a.ends text s).union (b.ends text s) ↔
        j ∈ a.ends text s ∨ j ∈ b.ends text s := by
      by_cases left : j ∈ a.ends text s <;> simp [Places.union, left]
    simp only [Node.ends, Node.Matches, union, first s within, second s within, and_or_left,
      exists_or]
  | repetition least most? body ih => exact Node.computes_repetition ih least most?
  | group body ih => exact ih

theorem Node.occursIn_iff {n : Node} {text : String} :
    n.occursIn text = true ↔
      ∃ i ≤ text.toList.toArray.size, ∃ j, n.Matches text.toList.toArray i j := by
  have within : ∀ i ∈ List.range (text.toList.toArray.size + 1), i ≤ text.toList.toArray.size :=
    fun i hi => Nat.lt_succ_iff.mp (List.mem_range.mp hi)
  simp only [Node.occursIn, Bool.not_eq_true', List.isEmpty_eq_false_iff_exists_mem,
    Node.computes _ n _ within, List.mem_range, Nat.lt_succ_iff]
  constructor
  · rintro ⟨j, i, hi, matched⟩
    exact ⟨i, hi, j, matched⟩
  · rintro ⟨i, hi, j, matched⟩
    exact ⟨j, i, hi, matched⟩

/-- Between the start and the end of a text only matches of the whole text are left. -/
theorem Node.occursIn_whole_iff {n : Node} {text : String} :
    (Node.seq (.place .start) (.seq n (.place .stop))).occursIn text = true ↔
      n.Matches text.toList.toArray 0 text.toList.toArray.size := by
  rw [Node.occursIn_iff]
  simp only [Node.Matches, Place.holds, beq_iff_eq]
  constructor
  · rintro ⟨i, -, j, _, ⟨rfl, rfl⟩, k, matched, rfl, -⟩
    exact matched
  · intro matched
    exact ⟨0, Nat.zero_le _, _, 0, ⟨rfl, rfl⟩, _, matched, rfl, rfl⟩

end Jadn.Pattern
