import Jadn.Proofs.Pattern.Classes

/-!
Reading a pattern that more text follows, one construct at a time.

A construct is a token, which depends on the text only, and what the token does to what was read
before (`Reading.step_eq`).
-/

set_option autoImplicit false

namespace Jadn.Pattern

section Groups

variable (verbose : Bool)

theorem flagItems_leaves (items : FlagItems) (negated dangling : Bool) (cs : List Char) :
    Leaves cs (flagItems items negated dangling cs) := by
  induction cs generalizing items negated dangling with
  | nil => exact .error
  | cons c cs ih =>
    have unread : cs <:+ c :: cs := List.suffix_cons c cs
    unfold flagItems
    split_ifs
    · exact .error
    · exact .ok unread
    · exact .error
    · exact (ih _ _ _).mono unread
    all_goals
      split
      · exact .error
      · split_ifs
        · exact .error
        · exact (ih _ _ _).mono unread

theorem flagItems_extends (items : FlagItems) (negated dangling : Bool) {cs cs' : List Char}
    (h : Carries cs cs') :
    Extends Spent (flagItems items negated dangling cs)
      (flagItems items negated dangling cs') := by
  refine extends_of_carries (flagItems_leaves items negated dangling) (fun cs => ?_) h
  induction cs generalizing items negated dangling with
  | nil =>
    -- The parenthesis ends the flags.
    rw [List.nil_append, closing, flagItems, flagItems, if_pos (by decide)]
    cases dangling with
    | true => exact .error _ _
    | false =>
      have unread : left (items, decide (')' = ':'), ['$']) <:+ ['$'] := List.suffix_rfl
      exact .astray (.ok unread) (by decide)
  | cons c cs ih =>
    rw [List.cons_append]
    unfold flagItems
    split_ifs
    · exact .error _ _
    · exact .kept (items, decide (c = ':'), cs)
    · exact .error _ _
    · exact ih _ _ _
    all_goals
      split
      · exact .error _ _
      · split_ifs
        · exact .error _ _
        · exact ih _ _ _

def closeName : List Char → List Char → Except Fault (String × List Char)
  | c :: name, '>' :: rest =>
    if isNameChar true c && name.all (isNameChar false) then .ok (String.ofList (c :: name), rest)
    else .error .groupName
  | _, _ => .error .groupName

theorem groupName_eq (cs : List Char) :
    groupName cs = closeName (cs.takeWhile (· != '>')) (cs.dropWhile (· != '>')) := rfl

theorem closeName_nil (name : List Char) : closeName name [] = .error .groupName := by
  cases name <;> rfl

theorem closeName_leaves (name cs : List Char) : Leaves cs (closeName name cs) := by
  unfold closeName
  split
  · split_ifs
    · exact .ok (List.suffix_cons _ _)
    · exact .error
  · exact .error

theorem closeName_extends (name : List Char) {cs cs' : List Char} (h : Carries cs cs') :
    Extends Spent (closeName name cs) (closeName name cs') := by
  match name with
  | [] => exact .error .groupName .groupName
  | d :: name =>
    rcases h.shape with ⟨rfl, rfl | rfl⟩ | ⟨c, rest, rfl, rfl⟩
    · exact .error .groupName .groupName
    · exact .error _ _
    · by_cases ends : c = '>'
      · subst ends
        simp only [closeName]
        split_ifs
        · exact .kept (_, rest)
        · exact .error _ _
      · simpa [closeName, ends] using Extends.error _ _

theorem groupName_leaves (cs : List Char) : Leaves cs (groupName cs) :=
  (closeName_leaves _ _).mono (List.dropWhile_suffix _)

theorem groupName_extends {cs cs' : List Char} (h : Carries cs cs') :
    Extends Spent (groupName cs) (groupName cs') := by
  refine extends_of_carries groupName_leaves (fun cs => ?_) h
  rw [groupName_eq, groupName_eq]
  rcases dropWhile_closing (p := (· != '>')) (by decide) cs with ⟨none, none'⟩ | ⟨-, unread, run⟩
  · rw [none, none', closeName_nil, closeName_nil]
    exact .error _ _
  · rw [unread, run]
    exact closeName_extends _ (.kept _)

def namedGroup (cs : List Char) : Except Fault (Opening × List Char) := do
  let (name, rest) ← groupName cs
  return (.named name, rest)

def flagGroup (cs : List Char) : Except Fault (Opening × List Char) := do
  let (items, opens, rest) ← flagItems ⟨[], []⟩ false false cs
  if opens then return (.group (.flagged items), rest)
  else if items.on.isEmpty && items.off.isEmpty then .error .nothingToRepeat
  else return (.flags items, rest)

theorem namedGroup_leaves (cs : List Char) : Leaves cs (namedGroup cs) :=
  (groupName_leaves cs).bind fun _ => .ok List.suffix_rfl

theorem namedGroup_extends {cs cs' : List Char} (h : Carries cs cs') :
    Extends Spent (namedGroup cs) (namedGroup cs') := by
  refine (groupName_extends h).bind_pair_spent ?_ fun _ _ => .ok List.suffix_rfl
  exact fun name rest rest' unread => .read unread.pair

def flagOpening (items : FlagItems) (opens : Bool) : Except Fault Opening :=
  if opens then .ok (.group (.flagged items))
  else if items.on.isEmpty && items.off.isEmpty then .error .nothingToRepeat
  else .ok (.flags items)

theorem flagGroup_eq (cs : List Char) :
    flagGroup cs = flagItems ⟨[], []⟩ false false cs >>= fun p =>
      flagOpening p.1 p.2.1 >>= fun o => .ok (o, p.2.2) := by
  unfold flagGroup flagOpening
  congr
  funext ⟨items, opens, rest⟩
  dsimp only
  split_ifs <;> rfl

theorem flagGroup_leaves (cs : List Char) : Leaves cs (flagGroup cs) := by
  rw [flagGroup_eq]
  refine (flagItems_leaves _ _ _ cs).bind ?_
  exact fun p => .after fun o => .ok List.suffix_rfl

theorem flagGroup_extends {cs cs' : List Char} (h : Carries cs cs') :
    Extends Spent (flagGroup cs) (flagGroup cs') := by
  rw [flagGroup_eq, flagGroup_eq]
  refine (flagItems_extends _ _ _ h).bind_pair_spent ?_ ?_
  · intro items unread unread' read
    obtain ⟨same, later⟩ := read.parts
    simp only [same]
    exact .after fun o => .read later.pair
  · exact fun items unread => .after fun o => .ok List.suffix_rfl

def openingAfter : List Char → Except Fault (Opening × List Char)
  | '?' :: '=' :: _ | '?' :: '!' :: _ | '?' :: '<' :: '=' :: _ | '?' :: '<' :: '!' :: _ =>
    .error .lookAround
  | '?' :: 'P' :: '<' :: cs | '?' :: '<' :: cs => namedGroup cs
  | '?' :: cs => flagGroup cs
  | cs => .ok (.group .capturing, cs)

theorem openingOf_eq (cs : List Char) :
    openingOf verbose cs = openingAfter (skip verbose cs) := rfl

theorem openingAfter_capturing {c : Char} {cs : List Char} (other : c ≠ '?') :
    openingAfter (c :: cs) = .ok (.group .capturing, c :: cs) := by
  simp [openingAfter, other]

theorem openingAfter_named {cs : List Char} (name : ∀ d ∈ cs.head?, d ≠ '=' ∧ d ≠ '!') :
    openingAfter ('?' :: '<' :: cs) = namedGroup cs := by
  cases cs with
  | nil => rfl
  | cons d cs =>
    obtain ⟨first, second⟩ := name d rfl
    simp [openingAfter, first, second]

theorem openingAfter_flags {cs : List Char}
    (flags : ∀ d ∈ cs.head?, d ≠ '=' ∧ d ≠ '!' ∧ d ≠ '<')
    (unnamed : ∀ rest, cs ≠ 'P' :: '<' :: rest) : openingAfter ('?' :: cs) = flagGroup cs := by
  cases cs with
  | nil => rfl
  | cons d cs =>
    obtain ⟨first, second, third⟩ := flags d rfl
    simp [openingAfter, first, second, third]

theorem openingAfter_leaves (cs : List Char) : Leaves cs (openingAfter cs) := by
  unfold openingAfter
  split
  case h_5 rest => exact (namedGroup_leaves rest).mono ⟨['?', 'P', '<'], rfl⟩
  case h_6 rest _ _ => exact (namedGroup_leaves rest).mono ⟨['?', '<'], rfl⟩
  case h_7 rest _ _ _ _ _ _ => exact (flagGroup_leaves rest).mono ⟨['?'], rfl⟩
  case h_8 => exact .ok List.suffix_rfl
  all_goals exact .error

/-- What a question mark says of a group is settled by the character after it, or, where that is
`<` or `P`, by the next one. Parenthesis and dollar sign are none of those that matter. -/
theorem openingAfter_extends {cs cs' : List Char} (h : Carries cs cs') :
    Extends Spent (openingAfter cs) (openingAfter cs') := by
  rcases h.shape with ⟨rfl, rfl | rfl⟩ | ⟨c, rest, rfl, rfl⟩
  · exact .kept (Opening.group .capturing, [])
  · exact .same (openingAfter_leaves [])
  · by_cases marked : c = '?'
    · subst marked
      match rest with
      | [] => exact flagGroup_extends (.kept [])
      | d :: rest =>
        by_cases look : d = '=' ∨ d = '!'
        · rcases look with rfl | rfl <;> exact .error _ _
        · by_cases angle : d = '<'
          · subst angle
            match rest with
            | [] => exact namedGroup_extends (.kept [])
            | e :: rest =>
              by_cases behind : e = '=' ∨ e = '!'
              · rcases behind with rfl | rfl <;> exact .error _ _
              · have name : e ≠ '=' ∧ e ≠ '!' := not_or.mp behind
                rw [openingAfter_named (by simpa using name),
                  List.cons_append, openingAfter_named (by simpa using name)]
                exact namedGroup_extends (.kept (e :: rest))
          · by_cases letter : ∃ name, d :: rest = 'P' :: '<' :: name
            · obtain ⟨name, same⟩ := letter
              cases same
              exact namedGroup_extends (.kept name)
            · have flags : d ≠ '=' ∧ d ≠ '!' ∧ d ≠ '<' := by simpa [angle] using look
              have unnamed : ∀ name, d :: (rest ++ closing) ≠ 'P' :: '<' :: name := by
                intro name same
                match rest with
                | [] => simp [closing] at same
                | e :: rest =>
                  simp only [List.cons_append, List.cons.injEq] at same
                  exact letter ⟨rest, by rw [same.1, same.2.1]⟩
              rw [openingAfter_flags (by simpa using flags) (not_exists.mp letter),
                List.cons_append, openingAfter_flags (by simpa using flags) unnamed]
              exact flagGroup_extends (.kept (d :: rest))
    · rw [openingAfter_capturing marked, openingAfter_capturing marked]
      exact .kept (Opening.group .capturing, c :: rest)

theorem openingOf_leaves (cs : List Char) : Leaves cs (openingOf verbose cs) := by
  rw [openingOf_eq]
  exact (openingAfter_leaves _).mono (skip_suffix verbose cs)

theorem openingOf_extends {cs cs' : List Char} (h : Carries cs cs') :
    Extends Spent (openingOf verbose cs) (openingOf verbose cs') := by
  rw [openingOf_eq, openingOf_eq]
  exact openingAfter_extends (h.skip verbose)

end Groups

section Tokens

variable (verbose : Bool)

inductive Token where
  | opening (o : Opening)
  | close
  | bar
  | part (e : Expr)
  | repeated (least : Nat) (most? : Option Nat)

def token (verbose : Bool) (c : Char) (cs : List Char) : Except Fault (Token × List Char) :=
  match c with
  | '(' => (openingOf verbose cs).map fun p => (.opening p.1, p.2)
  | ')' => .ok (.close, cs)
  | '|' => .ok (.bar, cs)
  | '[' => (classExpr verbose cs).map fun p => (.part p.1, p.2)
  | '?' => .ok (.repeated 0 (some 1), lazily cs)
  | '*' => .ok (.repeated 0 none, lazily cs)
  | '+' => .ok (.repeated 1 none, lazily cs)
  | '\x7b' => bounds verbose cs >>= fun p => .ok (.repeated p.1 p.2.1, p.2.2)
  | '\\' => (escape verbose cs).map fun p => (.part p.1, p.2)
  | '.' => .ok (.part .dot, cs)
  | '^' => .ok (.part (.assertion .startLine), cs)
  | '$' => .ok (.part (.assertion .endLine), cs)
  | c => .ok (.part (.literal ⟨c, false⟩), cs)

theorem token_other {verbose : Bool} {c : Char} {cs : List Char}
    (plain : c ∉ ['(', ')', '|', '[', '?', '*', '+', '\x7b', '\\', '.', '^', '$']) :
    token verbose c cs = .ok (.part (.literal ⟨c, false⟩), cs) := by
  unfold token
  split
  case h_13 => rfl
  all_goals simp at plain

def Reading.apply (r : Reading) : Token → Except Fault Reading
  | .opening (.group (.flagged items)) =>
    .ok (r.openGroup (.flagged items) ((items.state? .ignoreBlanks).getD r.verbose))
  | .opening (.group .capturing) => .ok (r.openGroup .capturing r.verbose)
  | .opening (.named name) =>
    if name ∈ r.names then .error (.duplicateGroupName name)
    else .ok ({ r with names := name :: r.names }.openGroup .capturing r.verbose)
  | .opening (.flags items) =>
    .ok ({ r with verbose := (items.state? .ignoreBlanks).getD r.verbose }.push (.flags items))
  | .close => r.closeGroup
  | .bar => .ok r.alternate
  | .part e => .ok (r.push e)
  | .repeated least most? => r.repeatLast least most?

/-- Braces are only read as a count after something that can be repeated. -/
def Reading.ready (r : Reading) (c : Char) : Except Fault Unit :=
  if c = '\x7b' then (r.repeatLast 0 none).map fun _ => () else .ok ()

theorem Reading.step_eq (r : Reading) (c : Char) (cs : List Char) :
    r.step c cs = (do
      r.ready c
      let (t, rest) ← token r.verbose c cs
      return (← r.apply t, rest)) := by
  by_cases brace : c = '\x7b'
  · subst brace
    simp only [Reading.step, Reading.ready, token, if_true]
    cases r.repeatLast 0 none with
    | error e => rfl
    | ok _ => cases bounds r.verbose cs <;> rfl
  · rw [Reading.ready, if_neg brace]
    unfold Reading.step
    split
    case h_13 =>
      have plain : c ∉ ['(', ')', '|', '[', '?', '*', '+', '\x7b', '\\', '.', '^', '$'] := by
        simp only [List.mem_cons, List.not_mem_nil, or_false, not_or]
        and_intros <;> assumption
      rw [token_other plain]
      rfl
    all_goals unfold token
    case h_1 =>
      cases openingOf r.verbose cs with
      | error e => rfl
      | ok p =>
        obtain ⟨opening, rest⟩ := p
        cases opening with
        | group kind => cases kind <;> rfl
        | named name =>
          by_cases taken : name ∈ r.names
          all_goals
            simp [Reading.apply, taken, Except.map, bind, Except.bind, pure, Except.pure]
        | flags items => rfl
    case h_4 => cases classExpr r.verbose cs <;> rfl
    case h_8 => exact (brace rfl).elim
    case h_9 => cases escape r.verbose cs <;> rfl
    all_goals rfl

theorem token_leaves (c : Char) (cs : List Char) : Leaves cs (token verbose c cs) := by
  unfold token
  split
  case h_1 => exact (openingOf_leaves verbose cs).map_fst
  case h_4 => exact (classExpr_leaves verbose cs).map_fst
  case h_8 => exact (bounds_leaves verbose cs).bind fun p => .ok List.suffix_rfl
  case h_9 => exact (escape_leaves verbose cs).map_fst
  case h_5 | h_6 | h_7 => exact .ok (lazily_suffix cs)
  all_goals exact .ok List.suffix_rfl

/-- A text on which a construct is at fault is read on to its end, or a word boundary is read in
front of braces that are no count. -/
def Token.Stray (verbose : Bool) (p : Token × List Char) : Prop :=
  Spent p ∨ p.1 = .part (.assertion .wordBoundary) ∧ Uncounted verbose p.2

theorem token_extends (c : Char) {cs cs' : List Char} (h : Carries cs cs') :
    Extends (Token.Stray verbose) (token verbose c cs) (token verbose c cs') := by
  unfold token
  split
  case h_1 => exact (openingOf_extends verbose h).map_fst fun _ _ spent => .inl spent
  case h_4 => exact (classExpr_extends verbose h).map_fst fun _ _ spent => .inl spent
  case h_8 =>
    refine (bounds_extends verbose h).bind ?_ ?_
    · rintro ⟨least, most?, rest⟩ ⟨_, _, rest'⟩ read - -
      obtain ⟨rfl, read⟩ := read.parts
      obtain ⟨rfl, unread⟩ := read.parts
      exact .read unread.pair
    · rintro ⟨least, most?, rest⟩ spent p same
      cases same
      exact .inl spent
  case h_9 =>
    refine (escape_extends verbose h).map_fst ?_
    rintro e rest (spent | ⟨rfl, uncounted⟩)
    · exact .inl spent
    · exact .inr ⟨rfl, uncounted⟩
  case h_5 | h_6 | h_7 => exact .read h.lazily.pair
  all_goals exact .read h.pair

theorem eq_of_token_close {c : Char} {cs rest : List Char}
    (h : token verbose c cs = .ok (.close, rest)) : c = ')' := by
  unfold token at h
  split at h
  case h_1 | h_4 | h_9 =>
    obtain ⟨p, -, same⟩ := Except.map_eq_ok_iff.mp h
    cases same
  case h_2 => rfl
  case h_8 =>
    obtain ⟨p, -, same⟩ := Except.bind_eq_ok_iff.mp h
    cases same
  all_goals cases h

end Tokens

namespace Reading

/-- A reading inside of groups that were opened before. -/
def inside (r : Reading) (base : List OpenGroup) : Reading := { r with outer := r.outer ++ base }

variable {r : Reading} {base : List OpenGroup}

@[simp]
theorem inside_outer : (r.inside base).outer = r.outer ++ base := rfl

@[simp]
theorem inside_verbose : (r.inside base).verbose = r.verbose := rfl

theorem inside_closeGroup (opened : r.outer ≠ []) :
    (r.inside base).closeGroup = r.closeGroup.map (·.inside base) := by
  unfold closeGroup
  match here : r.outer with
  | [] => exact (opened here).elim
  | g :: outer => simp [inside, here, Except.map, body]

theorem inside_repeatLast (least : Nat) (most? : Option Nat) :
    (r.inside base).repeatLast least most? = (r.repeatLast least most?).map (·.inside base) := by
  obtain ⟨branches, parts, outer, verbose, names⟩ := r
  unfold repeatLast inside
  dsimp only
  split <;> rfl

theorem inside_apply {t : Token} (h : t = .close → r.outer ≠ []) :
    (r.inside base).apply t = (r.apply t).map (·.inside base) := by
  match t with
  | .opening (.group (.flagged items)) => rfl
  | .opening (.group .capturing) => rfl
  | .opening (.flags items) => rfl
  | .opening (.named name) =>
    by_cases taken : name ∈ r.names
    · rw [apply, apply, if_pos taken, if_pos (show name ∈ (r.inside base).names from taken)]
      rfl
    · rw [apply, apply, if_neg taken, if_neg (show name ∉ (r.inside base).names from taken)]
      rfl
  | .close => exact inside_closeGroup (h rfl)
  | .bar => rfl
  | .part e => rfl
  | .repeated least most? => exact inside_repeatLast least most?

theorem inside_ready (c : Char) : (r.inside base).ready c = r.ready c := by
  unfold ready
  rw [inside_repeatLast]
  cases r.repeatLast 0 none <;> rfl

theorem outer_of_apply {t : Token} {r' : Reading} (h : r.apply t = .ok r') (stays : t ≠ .close)
    (opened : r.outer ≠ []) : r'.outer ≠ [] := by
  match t with
  | .opening (.group (.flagged items)) | .opening (.group .capturing) =>
    cases h
    exact List.cons_ne_nil _ _
  | .opening (.named name) =>
    simp only [apply] at h
    split_ifs at h
    cases h
    exact List.cons_ne_nil _ _
  | .opening (.flags items) | .bar | .part e =>
    cases h
    exact opened
  | .close => exact (stays rfl).elim
  | .repeated least most? =>
    simp only [apply, repeatLast] at h
    split at h
    all_goals cases h
    exact opened

/-- Inside of other groups the same is read, except where a group closes that was not opened. -/
theorem step_inside {c : Char} (h : c = ')' → r.outer ≠ []) (cs : List Char) :
    (r.inside base).step c cs = (r.step c cs).map fun p => (p.1.inside base, p.2) := by
  rw [step_eq, step_eq, inside_ready, inside_verbose]
  cases r.ready c with
  | error e => rfl
  | ok _ =>
    cases read : token r.verbose c cs with
    | error e => rfl
    | ok p =>
      obtain ⟨t, rest⟩ := p
      have opened : t = .close → r.outer ≠ [] := by
        rintro rfl
        exact h (eq_of_token_close r.verbose read)
      simp only [bind, Except.bind, inside_apply opened]
      cases r.apply t <;> rfl

theorem outer_of_step {c : Char} {cs rest : List Char} {r' : Reading}
    (h : r.step c cs = .ok (r', rest)) (other : c ≠ ')') (opened : r.outer ≠ []) :
    r'.outer ≠ [] := by
  rw [step_eq] at h
  obtain ⟨_, -, h⟩ := Except.bind_eq_ok_iff.mp h
  obtain ⟨⟨t, _⟩, read, h⟩ := Except.bind_eq_ok_iff.mp h
  obtain ⟨_, applied, h⟩ := Except.bind_eq_ok_iff.mp h
  cases h
  refine outer_of_apply applied ?_ opened
  rintro rfl
  exact other (eq_of_token_close r.verbose read)

theorem step_leaves (c : Char) (cs : List Char) : Leaves cs (r.step c cs) := by
  rw [step_eq]
  refine .after fun _ => (token_leaves r.verbose c cs).bind ?_
  exact fun p => .after fun r' => .ok List.suffix_rfl

/-- A reading that has gone astray comes to no end that could close a group. -/
def Astray (p : Reading × List Char) : Prop := Spent p ∨ Uncounted p.1.verbose p.2

theorem step_extends (c : Char) {cs cs' : List Char} (h : Carries cs cs') :
    Extends Astray (r.step c cs) (r.step c cs') := by
  rw [step_eq, step_eq]
  refine .after fun _ => (token_extends r.verbose c h).bind_pair ?_ ?_
  · exact fun t rest rest' unread => .after fun r' => .read unread.pair
  · intro t rest stray p same
    obtain ⟨r', applied, same⟩ := Except.bind_eq_ok_iff.mp same
    cases same
    rcases stray with spent | ⟨boundary, uncounted⟩
    · exact .inl spent
    · obtain rfl : t = _ := boundary
      cases applied
      exact .inr uncounted

end Reading

end Jadn.Pattern
