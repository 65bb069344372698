import Jadn.Proofs.Pattern.Ranges

/-!
Reading classes in brackets of a pattern that more text follows. The closing bracket of a class has
to stand in the pattern itself, since none follows.
-/

set_option autoImplicit false

namespace Jadn.Pattern

section Opening

variable (verbose : Bool)

theorem leadingHyphens_suffix (n : Nat) (cs : List Char) :
    (leadingHyphens verbose n cs).2 <:+ cs := by
  rw [leadingHyphens_eq]
  exact charRun_suffix verbose n cs

theorem leadingHyphens_carries {n m : Nat} {cs cs' : List Char} (h : Carries cs cs')
    (enough : cs.length ≤ n) (enough' : cs'.length ≤ m) :
    Carries (leadingHyphens verbose n cs) (leadingHyphens verbose m cs') := by
  rw [leadingHyphens_eq, leadingHyphens_eq]
  have run : Carries (charRun (· == '-') verbose n cs) (charRun (· == '-') verbose m cs') :=
    charRun_carries verbose (by decide) h enough enough'
  obtain ⟨same, unread⟩ := run.parts
  exact carries_pair_iff.mpr ⟨congrArg _ same, unread⟩

def firstItems (verbose : Bool) (negated : Bool) :
    List ClassSet → List Char → Except Fault (Bool × List ClassSet × List Char)
  | _, [] => .error .unclosedClass
  | [], ']' :: cs =>
    match skip verbose cs with
    | [] => .error .unclosedClass
    | cs => .ok (negated, [.literal ⟨']', false⟩], cs)
  | items, cs => .ok (negated, items, cs)

theorem openClass_eq (cs : List Char) :
    openClass verbose cs =
      let signed := sign (skip verbose) (skip verbose cs)
      let hyphens := leadingHyphens verbose signed.2.length signed.2
      firstItems verbose signed.1 hyphens.1 hyphens.2 := rfl

@[simp]
theorem firstItems_nil (negated : Bool) (items : List ClassSet) :
    firstItems verbose negated items [] = .error .unclosedClass := by
  cases items <;> rfl

@[simp]
theorem firstItems_closing (negated : Bool) (items : List ClassSet) :
    firstItems verbose negated items closing = .ok (negated, items, closing) := by
  cases items <;> rfl

theorem firstItems_bracket (negated : Bool) (cs : List Char) :
    firstItems verbose negated [] (']' :: cs) = match skip verbose cs with
      | [] => .error .unclosedClass
      | rest => .ok (negated, [.literal ⟨']', false⟩], rest) := rfl

theorem firstItems_other (negated : Bool) {items : List ClassSet} {c : Char} {cs : List Char}
    (other : ¬(items = [] ∧ c = ']')) :
    firstItems verbose negated items (c :: cs) = .ok (negated, items, c :: cs) := by
  unfold firstItems
  split
  · next same => cases same
  · next same =>
    cases same
    exact (other ⟨rfl, rfl⟩).elim
  · rfl

theorem firstItems_leaves (negated : Bool) (items : List ClassSet) (cs : List Char) :
    Leaves cs (firstItems verbose negated items cs) := by
  unfold firstItems
  split
  · exact .error
  · next rest =>
    split
    · exact .error
    · exact .ok ((skip_suffix verbose rest).trans (List.suffix_cons _ rest))
  · exact .ok List.suffix_rfl

theorem firstItems_extends (negated : Bool) (items : List ClassSet) {cs cs' : List Char}
    (h : Carries cs cs') :
    Extends (fun p => left p = closing) (firstItems verbose negated items cs)
      (firstItems verbose negated items cs') := by
  rcases h.shape with ⟨rfl, rfl | rfl⟩ | ⟨c, rest, rfl, rfl⟩
  · rw [firstItems_nil, firstItems_closing]
    refine .failed fun p same => ?_
    cases same
    rfl
  · rw [firstItems_nil]
    exact .error _ _
  · by_cases bracket : items = [] ∧ c = ']'
    · obtain ⟨rfl, rfl⟩ := bracket
      rw [firstItems_bracket, firstItems_bracket]
      rcases (skip_carries verbose rest).shape with ⟨here, there | there⟩ | ⟨c, rest', here, there⟩
      all_goals rw [here, there]
      · refine .failed fun p same => ?_
        cases same
        rfl
      · exact .error _ _
      · exact .kept (negated, [ClassSet.literal ⟨']', false⟩], c :: rest')
    · rw [firstItems_other verbose negated bracket, firstItems_other verbose negated bracket]
      exact .kept (negated, items, c :: rest)

theorem openClass_leaves (cs : List Char) : Leaves cs (openClass verbose cs) := by
  rw [openClass_eq]
  refine (firstItems_leaves verbose _ _ _).mono ?_
  exact ((leadingHyphens_suffix verbose _ _).trans
    (sign_suffix _ (skip_suffix verbose) _)).trans (skip_suffix verbose cs)

theorem openClass_extends {cs cs' : List Char} (h : Carries cs cs') :
    Extends (fun p => left p = closing) (openClass verbose cs) (openClass verbose cs') := by
  rw [openClass_eq, openClass_eq]
  obtain ⟨same, signed⟩ := (Carries.sign (skip_carries verbose) (h.skip verbose)).parts
  obtain ⟨same', hyphens⟩ :=
    (leadingHyphens_carries verbose signed (Nat.le_refl _) (Nat.le_refl _)).parts
  dsimp only
  rw [← same, ← same']
  exact firstItems_extends verbose _ _ hyphens

end Opening

section Bodies

variable (verbose : Bool)

theorem classOperator?_other {c d : Char} (other : ¬(c = d ∧ (c = '&' ∨ c = '-' ∨ c = '~')))
    (cs : List Char) : classOperator? (c :: d :: cs) = none := by
  unfold classOperator?
  split
  · next same =>
    cases same
    exact (other ⟨rfl, .inl rfl⟩).elim
  · next same =>
    cases same
    exact (other ⟨rfl, .inr (.inl rfl)⟩).elim
  · next same =>
    cases same
    exact (other ⟨rfl, .inr (.inr rfl)⟩).elim
  · rfl

theorem classOperator?_append (c : Char) (cs : List Char) :
    classOperator? (c :: (cs ++ closing)) =
      (classOperator? (c :: cs)).map fun p => (p.1, p.2 ++ closing) := by
  match cs with
  | [] =>
    rw [List.nil_append, closing, classOperator?_other]
    · simp [classOperator?]
    · rintro ⟨rfl, amp | hyphen | tilde⟩ <;> contradiction
  | d :: cs =>
    by_cases operator : c = d ∧ (c = '&' ∨ c = '-' ∨ c = '~')
    · obtain ⟨rfl, rfl | rfl | rfl⟩ := operator <;> rfl
    · rw [List.cons_append, classOperator?_other operator, classOperator?_other operator]
      rfl

theorem classOperator?_suffix {cs rest : List Char} {op : ClassOperator}
    (h : classOperator? cs = some (op, rest)) : ∃ c, c :: rest <:+ cs := by
  unfold classOperator? at h
  split at h
  all_goals cases h
  all_goals exact ⟨_, List.suffix_cons _ _⟩

theorem classBody_nil {n : Nat} {frames : List ClassFrame} {items : List ClassSet}
    {cs : List Char} (h : skip verbose cs = []) :
    classBody verbose n frames items cs = .error .unclosedClass := by
  cases n with
  | zero => rfl
  | succ n => rw [classBody, h]

theorem classBody_bracket {n : Nat} {frames : List ClassFrame} {items : List ClassSet}
    {cs rest : List Char} (h : skip verbose cs = '[' :: rest) :
    classBody verbose (n + 1) frames items cs = match asciiClass? rest with
      | some (cls, rest) => classBody verbose n frames (cls :: items) rest
      | none => openClass verbose rest >>= fun p =>
        classBody verbose n (.opened p.1 items :: frames) p.2.1 p.2.2 := by
  rw [classBody, h]
  rfl

theorem classBody_close {n : Nat} {frames : List ClassFrame} {items : List ClassSet}
    {cs rest : List Char} (h : skip verbose cs = ']' :: rest) :
    classBody verbose (n + 1) frames items cs =
      let closed := closeOperator frames (.ofItems items.reverse)
      match closed.1 with
      | [.opened negated _] => .ok (.bracketed negated closed.2, rest)
      | .opened negated before :: outer =>
        classBody verbose n outer (.bracketed negated closed.2 :: before) rest
      | _ => .error .unclosedClass := by
  rw [classBody, h]
  rfl

theorem classBody_item {n : Nat} {frames : List ClassFrame} {items : List ClassSet}
    {cs rest : List Char} {c : Char} (h : skip verbose cs = c :: rest) (opens : c ≠ '[')
    (closes : c ≠ ']') :
    classBody verbose (n + 1) frames items cs = match classOperator? (c :: rest) with
      | some (op, rest) =>
        let (frames, lhs) := closeOperator frames (.ofItems items.reverse)
        classBody verbose n (.operator op lhs :: frames) [] rest
      | none => classRange verbose (c :: rest) >>= fun p =>
        classBody verbose n frames (p.1 :: items) p.2 := by
  rw [classBody, h]
  split
  · next same => cases same
  · next same => exact (opens (List.cons.inj same).1).elim
  · next same => exact (closes (List.cons.inj same).1).elim
  · rfl

theorem classBody_leaves (n : Nat) (frames : List ClassFrame) (items : List ClassSet)
    (cs : List Char) : Leaves cs (classBody verbose n frames items cs) := by
  induction n generalizing frames items cs with
  | zero => exact .error
  | succ n ih =>
    have unread := skip_suffix verbose cs
    match here : skip verbose cs with
    | [] =>
      rw [classBody_nil verbose here]
      exact .error
    | c :: rest =>
      rw [here] at unread
      have within := (List.suffix_cons c rest).trans unread
      by_cases opens : c = '['
      · subst opens
        rw [classBody_bracket verbose here]
        split
        · next cls rest' named =>
          exact (ih _ _ _).mono ((asciiClass?_suffix named).trans within)
        · exact ((openClass_leaves verbose rest).mono within).bind fun p => ih _ _ _
      · by_cases closes : c = ']'
        · subst closes
          rw [classBody_close verbose here]
          dsimp only
          split
          · exact .ok within
          · exact (ih _ _ _).mono within
          · exact .error
        · rw [classBody_item verbose here opens closes]
          split
          · next op rest' operator =>
            obtain ⟨d, shorter⟩ := classOperator?_suffix operator
            exact (ih _ _ _).mono (((List.suffix_cons d rest').trans shorter).trans unread)
          · exact ((classRange_leaves verbose c rest).mono within).bind fun p => ih _ _ _

/-- A class that is still open where the pattern ends is not closed by what follows. -/
theorem classBody_closing (n : Nat) (frames : List ClassFrame) (items : List ClassSet)
    {cs : List Char} (ended : skip verbose cs = closing) (p : Expr × List Char) :
    classBody verbose n frames items cs ≠ .ok p := by
  have first : classRange verbose closing = .ok (.literal ⟨')', false⟩, ['$']) := by
    cases verbose <;> rfl
  have second : classRange verbose ['$'] = .error .unclosedClass := by
    cases verbose <;> rfl
  have last : skip verbose ['$'] = ['$'] := skip_cons verbose (by decide) (by decide) []
  have unclosed : ∀ m frames items,
      classBody verbose m frames items ['$'] = .error .unclosedClass := by
    intro m frames items
    cases m with
    | zero => rfl
    | succ m =>
      rw [classBody_item verbose last (by decide) (by decide), second]
      rfl
  cases n with
  | zero => exact nofun
  | succ n =>
    rw [classBody_item verbose ended (by decide) (by decide), ← closing, first]
    intro same
    cases (unclosed n frames _).symm.trans same

/-- What is read after the opening of a class cannot end where the pattern does. -/
theorem openClass_bind_extends {cs cs' : List Char}
    {f g : Bool × List ClassSet × List Char → Except Fault (Expr × List Char)}
    (h : Carries cs cs')
    (next : ∀ negated items rest rest', Carries rest rest' →
      openClass verbose cs = .ok (negated, items, rest) →
      openClass verbose cs' = .ok (negated, items, rest') →
      Extends Spent (f (negated, items, rest)) (g (negated, items, rest')))
    (unclosed : ∀ negated items p, g (negated, items, closing) ≠ .ok p) :
    Extends Spent (openClass verbose cs >>= f) (openClass verbose cs' >>= g) := by
  refine (openClass_extends verbose h).bind ?_ ?_
  · rintro ⟨negated, items, rest⟩ ⟨_, _, rest'⟩ read own longer
    obtain ⟨rfl, read⟩ := read.parts
    obtain ⟨rfl, read⟩ := read.parts
    exact next negated items rest rest' read own longer
  · rintro ⟨negated, items, rest⟩ ended p same
    obtain rfl : rest = closing := ended
    exact (unclosed negated items p same).elim

/-- A class has to end in the pattern that it begins in. -/
theorem classBody_extends {n m : Nat} (frames : List ClassFrame) (items : List ClassSet)
    {cs cs' : List Char} (h : Carries cs cs') (enough : cs.length < n) (enough' : cs'.length < m) :
    Extends Spent (classBody verbose n frames items cs) (classBody verbose m frames items cs') := by
  induction n generalizing m frames items cs cs' with
  | zero => cases enough
  | succ n ih =>
    obtain ⟨m, rfl⟩ := Nat.exists_eq_add_one_of_ne_zero (Nat.ne_zero_of_lt enough')
    have less := (skip_suffix verbose cs).length_le
    have less' := (skip_suffix verbose cs').length_le
    rcases (h.skip verbose).shape with ⟨here, there | there⟩ | ⟨c, rest, here, there⟩
    · rw [classBody_nil verbose here]
      exact .failed fun p same => (classBody_closing verbose _ _ _ there p same).elim
    · rw [classBody_nil verbose here, classBody_nil verbose there]
      exact .error _ _
    · rw [here, List.length_cons] at less
      rw [there, List.length_cons] at less'
      by_cases opens : c = '['
      · subst opens
        rw [classBody_bracket verbose here, classBody_bracket verbose there, asciiClass?_append]
        cases named : asciiClass? rest with
        | some found =>
          have shorter := (asciiClass?_suffix named).length_le
          refine ih _ _ (.kept found.2) (by omega) ?_
          rw [List.length_append]
          rw [List.length_append] at less'
          omega
        | none =>
          refine openClass_bind_extends verbose (.kept rest) ?_ fun negated inner =>
            classBody_closing verbose m _ inner (skip_closing verbose)
          intro negated inner unread unread' read own longer
          have fewer := (openClass_leaves verbose _ _ own).length_le
          have fewer' := (openClass_leaves verbose _ _ longer).length_le
          simp only [left_pair, left_chars] at fewer fewer'
          exact ih _ _ read (by dsimp only; omega) (by dsimp only; omega)
      · by_cases closes : c = ']'
        · subst closes
          rw [classBody_close verbose here, classBody_close verbose there]
          dsimp only
          split
          · exact .kept (_, rest)
          · exact ih _ _ (.kept rest) (by omega) (by omega)
          · exact .error _ _
        · rw [classBody_item verbose here opens closes, classBody_item verbose there opens closes,
            classOperator?_append]
          cases operator : classOperator? (c :: rest) with
          | some found =>
            obtain ⟨d, shorter⟩ := classOperator?_suffix operator
            have fewer := shorter.length_le
            simp only [List.length_cons] at fewer
            refine ih _ _ (.kept found.2) (by omega) ?_
            rw [List.length_append]
            rw [List.length_append] at less'
            omega
          | none =>
            refine (classRange_extends verbose c rest).bind ?_ ?_
            · rintro ⟨item, unread⟩ ⟨_, unread'⟩ read own longer
              obtain ⟨rfl, read⟩ := read.parts
              have fewer := (classRange_leaves verbose _ _ _ own).length_le
              have fewer' := (classRange_leaves verbose _ _ _ longer).length_le
              simp only [left_pair, left_chars] at fewer fewer'
              exact ih _ _ read (by dsimp only; omega) (by dsimp only; omega)
            · rintro ⟨item, unread⟩ adrift p same
              rcases adrift with spent | ended
              · exact (classBody_leaves verbose _ _ _ _).spent spent same
              · obtain rfl : unread = closing := ended
                exact (classBody_closing verbose _ _ _ (skip_closing verbose) p same).elim

theorem classExpr_leaves (cs : List Char) : Leaves cs (classExpr verbose cs) :=
  (openClass_leaves verbose cs).bind fun p => classBody_leaves verbose _ _ p.2.1 p.2.2

theorem classExpr_extends {cs cs' : List Char} (h : Carries cs cs') :
    Extends Spent (classExpr verbose cs) (classExpr verbose cs') := by
  refine openClass_bind_extends verbose h ?_ fun negated items =>
    classBody_closing verbose _ _ items (skip_closing verbose)
  intro negated items unread unread' read _ _
  exact classBody_extends verbose _ _ read (Nat.lt_succ_self _) (Nat.lt_succ_self _)

end Bodies

end Jadn.Pattern
