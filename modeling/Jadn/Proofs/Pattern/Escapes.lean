import Jadn.Proofs.Pattern.Remainder

/-!
Reading counts and escape sequences of a pattern that more text follows.
-/

set_option autoImplicit false

namespace Jadn.Pattern

section Counts

variable (verbose : Bool)

theorem Carries.dropBlanks {cs cs' : List Char} (h : Carries cs cs') :
    Carries (cs.dropWhile Text.isBlank) (cs'.dropWhile Text.isBlank) := by
  rcases carries_iff.mp h with rfl | ⟨none, rfl⟩
  · have stays : closing.dropWhile Text.isBlank = closing := by decide
    have : (followed cs).dropWhile Text.isBlank = followed (cs.dropWhile Text.isBlank) := by
      rw [followed_chars, List.dropWhile_append, stays]
      split
      · next none => simp_all
      · rfl
    rw [this]
    exact .kept _
  · obtain rfl : cs' = [] := none
    exact .swallowed rfl

theorem count_leaves (cs : List Char) : Leaves cs (count verbose cs) := by
  have run := digitRun_suffix verbose (cs.dropWhile Text.isBlank).length
    (cs.dropWhile Text.isBlank)
  simp only [count]
  split
  · split_ifs
    · apply Leaves.ok
      exact ((List.dropWhile_suffix _).trans run).trans (List.dropWhile_suffix _)
    · exact .error
  · exact .error

theorem count_extends {cs cs' : List Char} (h : Carries cs cs') :
    Extends Spent (count verbose cs) (count verbose cs') := by
  unfold count
  have run := digitRun_carries verbose h.dropBlanks (Nat.le_refl _) (Nat.le_refl _)
  obtain ⟨same, unread⟩ := run.parts
  simp only [← same]
  split
  · split_ifs
    · exact .read (unread.dropBlanks).pair
    · exact .error _ _
  · exact .error _ _

def lazily : List Char → List Char
  | '?' :: rest => rest
  | cs => cs

theorem lazily_suffix (cs : List Char) : lazily cs <:+ cs := by
  unfold lazily
  split
  · exact List.suffix_cons _ _
  · exact List.suffix_rfl

theorem Carries.lazily {cs cs' : List Char} (h : Carries cs cs') :
    Carries (lazily cs) (lazily cs') := by
  rcases carries_iff.mp h with rfl | ⟨none, rfl⟩
  · have : Pattern.lazily (followed cs) = followed (Pattern.lazily cs) := by
      match cs with
      | [] => rfl
      | c :: cs =>
        by_cases sign : c = '?'
        · subst sign
          rfl
        · simp [Pattern.lazily, sign]
    rw [this]
    exact .kept _
  · obtain rfl : cs' = [] := none
    exact .swallowed rfl

def upperBound (verbose : Bool) (least : Nat) : List Char → Except Fault (Option Nat × List Char)
  | ',' :: cs =>
    match skip verbose cs with
    | '\x7d' :: cs => .ok (none, '\x7d' :: cs)
    | cs => (count verbose cs).map fun (most, cs) => (some most, cs)
  | cs => .ok (some least, cs)

def closeBounds (verbose : Bool) (least : Nat) (most? : Option Nat) :
    List Char → Except Fault (Nat × Option Nat × List Char)
  | '\x7d' :: cs =>
    if most?.any (· < least) then .error .repetitionCount
    else
      match skip verbose cs with
      | '?' :: cs => .ok (least, most?, cs)
      | cs => .ok (least, most?, cs)
  | _ => .error .repetitionCount

theorem bounds_eq (cs : List Char) :
    bounds verbose cs = (do
      let (least, cs) ← count verbose (skip verbose cs)
      let (most?, cs) ← upperBound verbose least cs
      closeBounds verbose least most? cs) := by
  unfold bounds
  congr
  funext ⟨least, cs⟩
  dsimp only
  split
  · rw [upperBound]
    generalize skip verbose _ = rest
    cases rest with
    | nil => cases count verbose [] <;> rfl
    | cons c rest =>
      by_cases unbounded : c = '\x7d'
      · subst unbounded
        rfl
      · simp only [List.cons.injEq, unbounded, false_and, imp_self, implies_true]
        cases count verbose (c :: rest) <;> rfl
  · next other =>
    rw [upperBound]
    · rfl
    · exact other

theorem upperBound_leaves (least : Nat) (cs : List Char) :
    Leaves cs (upperBound verbose least cs) := by
  unfold upperBound
  split
  · next rest =>
    have unread := (skip_suffix verbose rest).trans (List.suffix_cons ',' rest)
    split
    · next unbounded => exact .ok (unbounded ▸ unread)
    · exact (count_leaves verbose _).map_fst.mono unread
  · exact .ok List.suffix_rfl

theorem upperBound_extends (least : Nat) {cs cs' : List Char} (h : Carries cs cs') :
    Extends Spent (upperBound verbose least cs) (upperBound verbose least cs') := by
  rcases h.shape with ⟨rfl, rfl | rfl⟩ | ⟨c, rest, rfl, rfl⟩
  · exact .kept (some least, [])
  · exact .same (upperBound_leaves verbose least [])
  · by_cases comma : c = ','
    · subst comma
      have unread := skip_carries verbose rest
      have bounded := (count_extends verbose unread).map_fst (f := some)
        (R := Spent) fun _ _ spent => spent
      unfold upperBound
      simp only
      rcases unread.shape with ⟨here, there | there⟩ | ⟨c, rest', here, there⟩
      all_goals rw [here, there] at bounded ⊢
      · exact bounded
      · exact bounded
      · by_cases unbounded : c = '\x7d'
        · subst unbounded
          exact .kept (none, '\x7d' :: rest')
        · simpa [unbounded] using bounded
    · simp only [upperBound, List.cons.injEq, comma, false_and, imp_self, implies_true]
      exact .kept (some least, c :: rest)

theorem closeBounds_brace (least : Nat) (most? : Option Nat) (cs : List Char) :
    closeBounds verbose least most? ('\x7d' :: cs) =
      if most?.any (· < least) then .error .repetitionCount
      else .ok (least, most?, lazily (skip verbose cs)) := by
  rw [closeBounds]
  split_ifs
  · rfl
  · unfold lazily
    split <;> rfl

theorem closeBounds_leaves (least : Nat) (most? : Option Nat) (cs : List Char) :
    Leaves cs (closeBounds verbose least most? cs) := by
  match cs with
  | [] => exact .error
  | c :: cs =>
    by_cases brace : c = '\x7d'
    · subst brace
      rw [closeBounds_brace]
      split_ifs
      · exact .error
      · apply Leaves.ok
        exact ((lazily_suffix _).trans (skip_suffix verbose cs)).trans (List.suffix_cons _ cs)
    · simpa [closeBounds, brace] using Leaves.error

theorem closeBounds_extends (least : Nat) (most? : Option Nat) {cs cs' : List Char}
    (h : Carries cs cs') :
    Extends Spent (closeBounds verbose least most? cs) (closeBounds verbose least most? cs') := by
  rcases h.shape with ⟨rfl, rfl | rfl⟩ | ⟨c, rest, rfl, rfl⟩
  · exact .error _ _
  · exact .error _ _
  · by_cases brace : c = '\x7d'
    · subst brace
      rw [closeBounds_brace, closeBounds_brace]
      split_ifs
      · exact .error _ _
      · have unread := (skip_carries verbose rest).lazily
        exact .read (unread.pair.pair)
    · simpa [closeBounds, brace] using Extends.error _ _

theorem bounds_leaves (cs : List Char) : Leaves cs (bounds verbose cs) := by
  rw [bounds_eq]
  refine ((count_leaves verbose _).mono (skip_suffix verbose cs)).bind ?_
  rintro ⟨least, cs⟩
  refine (upperBound_leaves verbose least cs).bind ?_
  rintro ⟨most?, cs⟩
  exact closeBounds_leaves verbose least most? cs

theorem bounds_extends {cs cs' : List Char} (h : Carries cs cs') :
    Extends Spent (bounds verbose cs) (bounds verbose cs') := by
  rw [bounds_eq, bounds_eq]
  refine (count_extends verbose (h.skip verbose)).bind_pair_spent ?_ ?_
  · intro least cs cs' unread
    refine (upperBound_extends verbose least unread).bind_pair_spent ?_ ?_
    · exact fun most? cs cs' unread => closeBounds_extends verbose least most? unread
    · exact fun most? cs => closeBounds_leaves verbose least most? cs
  · intro least cs
    refine (upperBound_leaves verbose least cs).bind ?_
    exact fun p => closeBounds_leaves verbose least p.1 p.2

end Counts

section Escapes

variable (verbose : Bool)

theorem hexDigits_leaves (n : Nat) (cs : List Char) : Leaves cs (hexDigits verbose n cs) := by
  induction n generalizing cs with
  | zero => exact .ok List.suffix_rfl
  | succ n ih =>
    cases cs with
    | nil => exact .error
    | cons c cs =>
      unfold hexDigits
      split_ifs
      · exact .error
      · refine ((ih _).mono ((skip_suffix verbose cs).trans (List.suffix_cons c cs))).bind ?_
        exact fun p => .ok List.suffix_rfl

theorem hexDigits_extends (n : Nat) {cs cs' : List Char} (h : Carries cs cs') :
    Extends Spent (hexDigits verbose n cs) (hexDigits verbose n cs') := by
  induction n generalizing cs cs' with
  | zero => exact .read h.pair
  | succ n ih =>
    rcases h.shape with ⟨rfl, rfl | rfl⟩ | ⟨c, rest, rfl, rfl⟩
    · exact .error _ _
    · exact .error _ _
    · unfold hexDigits
      split_ifs
      · exact .error _ _
      · refine (ih (skip_carries verbose rest)).bind_pair_spent ?_ fun _ _ => .ok List.suffix_rfl
        exact fun digits rest rest' unread => .read unread.pair

theorem untilBrace_leaves (n : Nat) (cs : List Char) : Leaves cs (untilBrace verbose n cs) := by
  induction n generalizing cs with
  | zero => exact .error
  | succ n ih =>
    have unread := skip_suffix verbose cs
    unfold untilBrace
    split
    · exact .error
    · next rest here =>
      rw [here] at unread
      exact .ok ((List.suffix_cons _ rest).trans unread)
    · next c rest _ here =>
      rw [here] at unread
      refine ((ih rest).mono ((List.suffix_cons c rest).trans unread)).bind ?_
      exact fun p => .ok List.suffix_rfl

theorem untilBrace_extends {n m : Nat} {cs cs' : List Char} (h : Carries cs cs')
    (enough : cs.length < n) (enough' : cs'.length < m) :
    Extends Spent (untilBrace verbose n cs) (untilBrace verbose m cs') := by
  induction n generalizing m cs cs' with
  | zero => cases enough
  | succ n ih =>
    obtain ⟨m, rfl⟩ := Nat.exists_eq_add_one_of_ne_zero (Nat.ne_zero_of_lt enough')
    have less := (skip_suffix verbose cs).length_le
    have less' := (skip_suffix verbose cs').length_le
    rcases (h.skip verbose).shape with ⟨here, there | there⟩ | ⟨c, rest, here, there⟩
    all_goals
      rw [here] at less
      rw [there] at less'
      rw [untilBrace, here, untilBrace, there]
    · -- The parenthesis is taken for a character before the brace.
      have left := (untilBrace_leaves verbose m ['$']).bind fun p =>
        .ok (b := (')' :: p.1, p.2)) List.suffix_rfl
      exact .astray left (by decide)
    · exact .error _ _
    · by_cases brace : c = '\x7d'
      · subst brace
        exact .kept ([], rest)
      · simp only [List.length_cons] at less less'
        simp only
        have later := ih (.kept rest) (by omega) (m := m) (by rw [followed_chars]; omega)
        refine later.bind_pair_spent ?_ fun _ _ => .ok List.suffix_rfl
        exact fun digits rest rest' unread => .read unread.pair

theorem hexEscape_leaves (width : Nat) (cs : List Char) :
    Leaves cs (hexEscape verbose width cs) := by
  have unread := skip_suffix verbose cs
  unfold hexEscape
  split
  · exact .error
  · next rest here =>
    rw [here] at unread
    have within := (List.suffix_cons _ rest).trans unread
    refine ((untilBrace_leaves verbose _ rest).mono within).bind ?_
    rintro ⟨digits, rest⟩
    dsimp only
    split_ifs
    · exact .error
    · exact .after fun l => .ok (skip_suffix verbose rest)
  · refine ((hexDigits_leaves verbose width _).mono unread).bind ?_
    rintro ⟨digits, rest⟩
    exact .after fun l => .ok List.suffix_rfl

theorem hexEscape_extends {width : Nat} (positive : 0 < width) {cs cs' : List Char}
    (h : Carries cs cs') :
    Extends Spent (hexEscape verbose width cs) (hexEscape verbose width cs') := by
  rcases (h.skip verbose).shape with ⟨here, there | there⟩ | ⟨c, rest, here, there⟩
  all_goals rw [hexEscape, here, hexEscape, there]
  · obtain ⟨n, rfl⟩ := Nat.exists_eq_add_one_of_ne_zero (Nat.ne_of_gt positive)
    exact .error _ .hexadecimal
  · exact .error _ _
  · by_cases brace : c = '\x7b'
    · subst brace
      simp only
      have inner := untilBrace_extends verbose (.kept rest) (Nat.lt_succ_self _)
        (Nat.lt_succ_self _)
      refine inner.bind_pair_spent ?_ ?_
      · intro digits rest rest' unread
        dsimp only
        split_ifs
        · exact .error _ _
        · exact .after fun l => .read (unread.skip verbose).pair
      · intro digits rest
        dsimp only
        split_ifs
        · exact .error
        · exact .after fun l => .ok (skip_suffix verbose rest)
    · simp only [List.cons.injEq, brace, false_and, imp_self, implies_true]
      refine (hexDigits_extends verbose width (.kept (c :: rest))).bind_pair_spent ?_ ?_
      · exact fun digits rest rest' unread => .after fun l => .read unread.pair
      · exact fun digits rest => .after fun l => .ok List.suffix_rfl

theorem propertyEscape_leaves (cs : List Char) : Leaves cs (propertyEscape verbose cs) := by
  have unread := skip_suffix verbose cs
  unfold propertyEscape
  split
  · exact .error
  · next rest here =>
    rw [here] at unread
    have within := (List.suffix_cons _ rest).trans unread
    refine ((untilBrace_leaves verbose _ rest).mono within).bind ?_
    exact fun p => .ok List.suffix_rfl
  · next c rest _ here =>
    rw [here] at unread
    split_ifs
    · exact .error
    · exact .ok ((skip_suffix verbose rest).trans ((List.suffix_cons c rest).trans unread))

theorem propertyEscape_extends {cs cs' : List Char} (h : Carries cs cs') :
    Extends Spent (propertyEscape verbose cs) (propertyEscape verbose cs') := by
  rcases (h.skip verbose).shape with ⟨here, there | there⟩ | ⟨c, rest, here, there⟩
  all_goals rw [propertyEscape, here, propertyEscape, there]
  · exact .astray (.ok (skip_suffix verbose ['$'])) (by decide)
  · exact .error _ _
  · by_cases brace : c = '\x7b'
    · subst brace
      simp only
      have inner := untilBrace_extends verbose (.kept rest) (Nat.lt_succ_self _)
        (Nat.lt_succ_self _)
      refine inner.bind_pair_spent ?_ fun _ _ => .ok List.suffix_rfl
      exact fun name rest rest' unread => .read unread.pair
    · simp only
      split_ifs
      · exact .error _ _
      · exact .read (carries_pair_iff.mpr ⟨rfl, skip_carries verbose rest⟩)

/-- What is read where braces are left to be read as a count: they hold nothing else. -/
def Uncounted (verbose : Bool) (cs : List Char) : Prop :=
  ∃ rest, cs = '\x7b' :: rest ∧ skip verbose rest = closing

def closeBoundary (name : List Char) : List Char → Except Fault (Assertion × List Char)
  | '\x7d' :: rest =>
    match String.ofList name with
    | "start" => .ok (.wordStart, rest)
    | "end" => .ok (.wordEnd, rest)
    | "start-half" => .ok (.wordStartHalf, rest)
    | "end-half" => .ok (.wordEndHalf, rest)
    | _ => .error .wordBoundary
  | _ => .error .wordBoundary

theorem closeBoundary_leaves (name cs : List Char) : Leaves cs (closeBoundary name cs) := by
  unfold closeBoundary
  split
  · next rest =>
    split
    all_goals first | exact .ok (List.suffix_cons _ rest) | exact .error
  · exact .error

theorem closeBoundary_extends {Q : Assertion × List Char → Prop} (name : List Char)
    {cs cs' : List Char} (h : Carries cs cs') :
    Extends Q (closeBoundary name cs) (closeBoundary name cs') := by
  rcases h.shape with ⟨rfl, rfl | rfl⟩ | ⟨c, rest, rfl, rfl⟩
  · exact .error _ .wordBoundary
  · exact .error _ _
  · by_cases brace : c = '\x7d'
    · subst brace
      unfold closeBoundary
      simp only
      split
      all_goals first | exact .kept (_, rest) | exact .error _ _
    · simpa [closeBoundary, brace] using Extends.error _ _

def boundaryAfter (verbose : Bool) (cs : List Char) :
    List Char → Except Fault (Assertion × List Char)
  | [] => .error .wordBoundary
  | c :: rest =>
    if !(c.isAlpha || c = '-') then .ok (.wordBoundary, cs)
    else
      let (name, rest) := boundaryName verbose rest.length.succ (c :: rest)
      closeBoundary name rest

theorem boundaryEscape_brace (inner : List Char) :
    boundaryEscape verbose ('\x7b' :: inner) =
      boundaryAfter verbose ('\x7b' :: inner) (skip verbose inner) := rfl

theorem boundaryEscape_other {c : Char} {cs : List Char} (other : c ≠ '\x7b') :
    boundaryEscape verbose (c :: cs) = .ok (.wordBoundary, c :: cs) := by
  simp [boundaryEscape, other]

theorem boundaryEscape_leaves (cs : List Char) : Leaves cs (boundaryEscape verbose cs) := by
  match cs with
  | [] => exact .ok List.suffix_rfl
  | c :: inner =>
    by_cases brace : c = '\x7b'
    · subst brace
      have unread := skip_suffix verbose inner
      rw [boundaryEscape_brace]
      unfold boundaryAfter
      split
      · exact .error
      · next c rest here =>
        rw [here] at unread
        split_ifs
        · exact .ok List.suffix_rfl
        · have run := boundaryName_suffix verbose rest.length.succ (c :: rest)
          exact (closeBoundary_leaves _ _).mono
            ((run.trans unread).trans (List.suffix_cons _ inner))
    · rw [boundaryEscape_other verbose brace]
      exact .ok List.suffix_rfl

theorem boundaryEscape_extends {cs cs' : List Char} (h : Carries cs cs') :
    Extends (fun p => p.1 = Assertion.wordBoundary ∧ Uncounted verbose p.2)
      (boundaryEscape verbose cs) (boundaryEscape verbose cs') := by
  rcases h.shape with ⟨rfl, rfl | rfl⟩ | ⟨c, inner, rfl, rfl⟩
  · exact .kept (Assertion.wordBoundary, [])
  · exact .same (boundaryEscape_leaves verbose [])
  · by_cases brace : c = '\x7b'
    · subst brace
      rw [boundaryEscape_brace, boundaryEscape_brace]
      rcases (skip_carries verbose inner).shape with ⟨here, there | there⟩ | ⟨c, rest, here, there⟩
      all_goals rw [here, there]
      · -- Without a name after it the brace is left over.
        refine .failed fun p same => ?_
        cases same
        exact ⟨rfl, inner ++ closing, rfl, there⟩
      · exact .error _ _
      · simp only [boundaryAfter]
        split_ifs
        · exact .kept (Assertion.wordBoundary, '\x7b' :: inner)
        · have run := boundaryName_carries verbose (n := rest.length.succ)
            (m := (rest ++ closing).length.succ) (.kept (c :: rest)) (Nat.le_refl _) (Nat.le_refl _)
          obtain ⟨same, unread⟩ := run.parts
          rw [followed_chars, List.cons_append] at same unread
          rw [← same]
          exact closeBoundary_extends _ unread
    · rw [boundaryEscape_other verbose brace, boundaryEscape_other verbose brace]
      exact .kept (Assertion.wordBoundary, c :: inner)

/-- A text on which an escape is at fault is read on to its end, or to braces that are no count. -/
def Stray (p : Expr × List Char) : Prop :=
  Spent p ∨ p.1 = .assertion .wordBoundary ∧ Uncounted verbose p.2

theorem escape_leaves (cs : List Char) : Leaves cs (escape verbose cs) := by
  cases cs with
  | nil => exact .error
  | cons c cs =>
    suffices Leaves cs (escape verbose (c :: cs)) from this.mono (List.suffix_cons c cs)
    unfold escape
    dsimp only
    split_ifs
    · exact .error
    · split
      all_goals first
        | exact .ok List.suffix_rfl
        | exact (hexEscape_leaves verbose _ cs).map_fst
        | exact (propertyEscape_leaves verbose cs).map_fst
        | exact (boundaryEscape_leaves verbose cs).map_fst
        | skip
      split_ifs
      · exact .ok List.suffix_rfl
      · exact .error

theorem escape_extends {cs cs' : List Char} (h : Carries cs cs') :
    Extends (Stray verbose) (escape verbose cs) (escape verbose cs') := by
  rcases h.shape with ⟨rfl, rfl | rfl⟩ | ⟨c, rest, rfl, rfl⟩
  · have literal : escape verbose closing = .ok (.literal ⟨')', false⟩, ['$']) := rfl
    rw [literal]
    refine .failed fun p same => .inl ?_
    cases same
    exact fun found => by simp at found
  · exact .same (escape_leaves verbose [])
  · unfold escape
    dsimp only
    split_ifs
    · exact .error _ _
    · split
      all_goals first
        | exact .kept (_, rest)
        | exact (hexEscape_extends verbose (by decide) (.kept rest)).map_fst
            fun _ _ spent => .inl spent
        | exact (propertyEscape_extends verbose (.kept rest)).map_fst fun _ _ spent => .inl spent
        | skip
      · refine (boundaryEscape_extends verbose (.kept rest)).map_fst ?_
        rintro kind unread ⟨rfl, uncounted⟩
        exact .inr ⟨rfl, uncounted⟩
      · split_ifs
        · exact .kept (_, rest)
        · exact .error _ _

end Escapes

end Jadn.Pattern
