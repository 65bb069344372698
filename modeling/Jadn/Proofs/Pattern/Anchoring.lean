import Jadn.Format
import Jadn.Proofs.Pattern.Matching
import Jadn.Proofs.Pattern.Reading

/-!
Patterns for whole texts.

A pattern for whole texts is compiled from the text of the pattern between `^(?:` and `)$`. What
that text means depends on how the pattern is read inside of it. A pattern that closes a group it
has not opened closes the group around it; after a comment without an end the parenthesis that
follows is a part of the comment. All others are read as they are on their own.
-/

set_option autoImplicit false

namespace Jadn.Pattern

namespace Reading

variable {r : Reading}

theorem run_of_skip_nil {n : Nat} {cs : List Char} (h : skip r.verbose cs = []) :
    run (n + 1) r cs = r.finish := by
  rw [run, h]

theorem run_of_skip_cons {n : Nat} {c : Char} {cs rest : List Char}
    (h : skip r.verbose cs = c :: rest) :
    run (n + 1) r cs = r.step c rest >>= fun p => run n p.1 p.2 := by
  rw [run, h]

theorem run_congr {n : Nat} {cs cs' : List Char} (h : skip r.verbose cs = skip r.verbose cs') :
    run n r cs = run n r cs' := by
  cases n with
  | zero => rfl
  | succ n => rw [run, run, h]

theorem finish_of_outermost (outermost : r.outer = []) : r.finish = .ok r.body := by
  simp [finish, outermost]

theorem step_unopened (outermost : r.outer = []) (cs : List Char) :
    r.step ')' cs = .error .unopenedGroup := by
  simp only [step, closeGroup, outermost]
  rfl

theorem step_close {g : OpenGroup} {outer : List OpenGroup} (opened : r.outer = g :: outer)
    (cs : List Char) :
    r.step ')' cs = .ok ({ r with
      branches := g.branches, parts := .group g.kind r.body :: g.parts, verbose := g.verbose,
      outer }, cs) := by
  simp only [step, closeGroup, opened]
  rfl

theorem finish_of_outer (opened : r.outer ≠ []) : r.finish = .error .unclosedGroup := by
  simp [finish, opened]

/-- A group that is open is closed in the rest of the text or not at all. -/
theorem run_ne_ok_of_spent {n : Nat} {cs : List Char} (opened : r.outer ≠ []) (none : ')' ∉ cs)
    (e : Expr) : run n r cs ≠ .ok e := by
  induction n generalizing r cs with
  | zero => exact nofun
  | succ n ih =>
    have unread := skip_suffix r.verbose cs
    match here : skip r.verbose cs with
    | [] =>
      rw [run_of_skip_nil here, finish_of_outer opened]
      exact nofun
    | c :: rest =>
      rw [here] at unread
      rw [run_of_skip_cons here]
      intro same
      obtain ⟨⟨r', rest'⟩, stepped, same⟩ := Except.bind_eq_ok_iff.mp same
      have other : c ≠ ')' := by
        rintro rfl
        exact none (unread.subset List.mem_cons_self)
      have left := (step_leaves c rest _ stepped).trans (List.suffix_cons c rest)
      have spent : ')' ∉ rest' := fun found => none ((left.trans unread).subset found)
      exact ih (outer_of_step stepped other opened) spent same

theorem run_ne_ok_of_uncounted {n : Nat} {cs : List Char} (h : Uncounted r.verbose cs) (e : Expr) :
    run n r cs ≠ .ok e := by
  obtain ⟨rest, rfl, ended⟩ := h
  have uncounted : bounds r.verbose rest = .error .repetitionCount := by
    rw [bounds_eq, ended]
    rfl
  cases n with
  | zero => exact nofun
  | succ n =>
    rw [run_of_skip_cons (skip_cons r.verbose (by decide) (by decide) rest), step_eq]
    intro same
    obtain ⟨_, stepped, -⟩ := Except.bind_eq_ok_iff.mp same
    obtain ⟨_, -, stepped⟩ := Except.bind_eq_ok_iff.mp stepped
    rw [token, uncounted] at stepped
    cases stepped

/-- How reading ends, and how it goes on inside of other groups where `closing` follows. -/
inductive Followed (r : Reading) (cs : List Char) : Except Fault Expr → Prop where
  /-- A group closes that was not opened. -/
  | unopened : Followed r cs (.error .unopenedGroup)
  /-- The text is at fault, also with what follows. -/
  | failed {f : Fault}
      (h : ∀ n base, base ≠ [] → ∀ e, run n (r.inside base) (cs ++ closing) ≠ .ok e) :
    Followed r cs (.error f)
  /-- What follows is left over. -/
  | closed {r' : Reading} (outermost : r'.outer = [])
      (h : ∀ n base, (cs ++ closing).length < n → ∃ m, closing.length < m ∧
        run n (r.inside base) (cs ++ closing) = run m (r'.inside base) closing) :
    Followed r cs (.ok r'.body)
  /-- What follows is in a comment. -/
  | swallowed {r' : Reading} (outermost : r'.outer = [])
      (h : ∀ n base, (cs ++ closing).length < n →
        run n (r.inside base) (cs ++ closing) = (r'.inside base).finish) :
    Followed r cs (.ok r'.body)

theorem Followed.of_step {r' : Reading} {cs rest : List Char} {x : Except Fault Expr}
    (steps : ∀ n base, run (n + 1) (r.inside base) (cs ++ closing) =
      run n (r'.inside base) (rest ++ closing))
    (shorter : rest.length < cs.length) (h : Followed r' rest x) : Followed r cs x := by
  have enough : ∀ n, (cs ++ closing).length < n + 1 → (rest ++ closing).length < n := by
    intro n
    simp only [List.length_append]
    omega
  cases h with
  | unopened => exact .unopened
  | failed wrong =>
    refine .failed fun n base opened e => ?_
    cases n with
    | zero => exact nofun
    | succ n =>
      rw [steps]
      exact wrong n base opened e
  | closed outermost later =>
    refine .closed outermost fun n base fuel => ?_
    cases n with
    | zero => cases fuel
    | succ n =>
      rw [steps]
      exact later n base (enough n fuel)
  | swallowed outermost later =>
    refine .swallowed outermost fun n base fuel => ?_
    cases n with
    | zero => cases fuel
    | succ n =>
      rw [steps]
      exact later n base (enough n fuel)

theorem Followed.of_finish {r' : Reading} {cs : List Char}
    (ends : ∀ n base, run n (r.inside base) (cs ++ closing) = (r'.inside base).finish ∨
      n ≤ (cs ++ closing).length ∧ run n (r.inside base) (cs ++ closing) = .error .tooDeep) :
    Followed r cs r'.finish := by
  by_cases outermost : r'.outer = []
  · rw [finish_of_outermost outermost]
    refine .swallowed outermost fun n base enough => ?_
    rcases ends n base with same | ⟨few, -⟩
    · exact same
    · exact absurd enough (Nat.not_lt_of_le few)
  · rw [finish_of_outer outermost]
    refine .failed fun n base _ e => ?_
    rcases ends n base with same | ⟨-, deep⟩
    · rw [same, finish_of_outer (List.append_ne_nil_of_left_ne_nil outermost base)]
      exact nofun
    · rw [deep]
      exact nofun

/-- Once a reading has gone astray in a group, nothing mends it. -/
theorem Followed.of_astray {f : Fault} {cs : List Char} {x : Except Fault (Reading × List Char)}
    (steps : ∀ n base, run (n + 1) (r.inside base) (cs ++ closing) =
      x >>= fun p => run n (p.1.inside base) p.2)
    (astray : ∀ p, x = .ok p → Astray p) : Followed r cs (.error f) := by
  refine .failed fun n base based e => ?_
  cases n with
  | zero => exact nofun
  | succ n =>
    rw [steps]
    intro same
    obtain ⟨⟨r', unread⟩, here, same⟩ := Except.bind_eq_ok_iff.mp same
    rcases astray _ here with spent | uncounted
    · have opened : (r'.inside base).outer ≠ [] := List.append_ne_nil_of_right_ne_nil _ based
      exact run_ne_ok_of_spent opened spent e same
    · exact run_ne_ok_of_uncounted (r := r'.inside base) uncounted e same

theorem Followed.of_swallowed {r' : Reading} {cs : List Char}
    (steps : ∀ n base, run (n + 1) (r.inside base) (cs ++ closing) = run n (r'.inside base) []) :
    Followed r cs r'.finish := by
  refine .of_finish fun n base => ?_
  match n with
  | 0 => exact .inr ⟨Nat.zero_le _, rfl⟩
  | 1 =>
    refine .inr ⟨?_, steps 0 base⟩
    rw [List.length_append]
    exact Nat.le_add_left_of_le (by decide)
  | n + 2 => exact .inl ((steps (n + 1) base).trans (run_of_skip_nil (skip_nil _)))

theorem run_closing_ne_ok {n : Nat} {g h : OpenGroup} {outer : List OpenGroup}
    (opened : r.outer = g :: h :: outer) (e : Expr) : run n r closing ≠ .ok e := by
  cases n with
  | zero => exact nofun
  | succ n =>
    rw [run_of_skip_cons (skip_closing r.verbose), step_close opened]
    have spent : ')' ∉ ['$'] := by decide
    exact run_ne_ok_of_spent (List.cons_ne_nil h outer) spent e

theorem followed_of_end {cs : List Char} (here : skip r.verbose cs = []) :
    Followed r cs r.finish := by
  rcases (skip_carries r.verbose cs).shape with ⟨-, there | there⟩ | ⟨c, rest, some, -⟩
  · have ended : ∀ n base, run n (r.inside base) (cs ++ closing) = run n (r.inside base) closing :=
      fun n base => run_congr (there.trans (skip_closing r.verbose).symm)
    match opened : r.outer with
    | [] =>
      rw [finish_of_outermost opened]
      refine .closed opened fun n base enough => ⟨n, ?_, ended n base⟩
      rw [List.length_append] at enough
      omega
    | g :: outer =>
      rw [finish_of_outer (opened ▸ List.cons_ne_nil g outer)]
      refine .failed fun n base based e => ?_
      rw [ended]
      obtain ⟨h, others, around⟩ := List.exists_cons_of_ne_nil
        (List.append_ne_nil_of_right_ne_nil outer based)
      have inner : (r.inside base).outer = g :: h :: others := by
        rw [inside_outer, opened, List.cons_append, around]
      exact run_closing_ne_ok inner e
  · refine .of_finish fun n base => ?_
    cases n with
    | zero => exact .inr ⟨Nat.zero_le _, rfl⟩
    | succ n => exact .inl (run_of_skip_nil there)
  · rw [here] at some
    cases some

/-- Reading goes on inside of other groups as it does on its own, unless a group closes that was
not opened. -/
theorem followed_of_run {n : Nat} {cs : List Char} (enough : cs.length < n) :
    Followed r cs (run n r cs) := by
  induction n generalizing r cs with
  | zero => cases enough
  | succ n ih =>
    have less := (skip_suffix r.verbose cs).length_le
    rcases (skip_carries r.verbose cs).shape with ⟨here, -⟩ | ⟨c, rest, here, there⟩
    · rw [run_of_skip_nil here]
      exact followed_of_end here
    · rw [run_of_skip_cons here]
      rw [here, List.length_cons] at less
      by_cases unopened : c = ')' ∧ r.outer = []
      · obtain ⟨rfl, outermost⟩ := unopened
        rw [step_unopened outermost]
        exact .unopened
      · have steps : ∀ n base, run (n + 1) (r.inside base) (cs ++ closing) =
            r.step c (rest ++ closing) >>= fun p => run n (p.1.inside base) p.2 := by
          intro n base
          have closes : c = ')' → r.outer ≠ [] := fun close outermost => unopened ⟨close, outermost⟩
          rw [run_of_skip_cons (r := r.inside base) there, step_inside closes]
          cases r.step c (rest ++ closing) <;> rfl
        have stepped := step_extends (r := r) c (.kept rest)
        rw [followed_chars] at stepped
        generalize own : r.step c rest = x, r.step c (rest ++ closing) = x' at stepped steps
        cases stepped with
        | failed astray => exact .of_astray steps astray
        | @read p p' h =>
          have shorter := (step_leaves c rest _ own).length_le
          rcases carries_iff.mp h with rfl | ⟨none, rfl⟩
          · refine .of_step steps (Nat.lt_of_le_of_lt shorter less) (ih ?_)
            exact Nat.lt_of_le_of_lt shorter (by omega)
          · obtain ⟨r', tail⟩ := p'
            obtain rfl : tail = [] := none
            obtain ⟨n, rfl⟩ := Nat.exists_eq_add_one_of_ne_zero (n := n) (by omega)
            change Followed r cs (run (n + 1) r' [])
            rw [run_of_skip_nil (skip_nil r'.verbose)]
            exact .of_swallowed steps

end Reading

/-- What a pattern for whole texts means: the pattern between the start and the end of the text. -/
def Expr.whole (e : Expr) : Expr :=
  .concat [.assertion .startLine, .group (.flagged ⟨[], []⟩) e, .assertion .endLine]

theorem Expr.whole_depth (e : Expr) : e.whole.depth = e.depth + 2 := by
  simp [whole, depth, depthAll]

theorem Expr.whole_toNode (e : Expr) :
    e.whole.toNode = e.toNode.map fun n => .seq (.place .start) (.seq n (.place .stop)) := by
  have unchanged : Flags.update {} ⟨[], []⟩ = {} := rfl
  simp only [toNode, whole, node, seqNodes, bind, Except.bind, unchanged]
  cases Expr.node {} e <;> rfl

def wholeGroup : OpenGroup := ⟨[], [.assertion .startLine], .flagged ⟨[], []⟩, false⟩

namespace Reading

theorem run_anchored (n : Nat) (cs : List Char) :
    run (n + 2) start ('^' :: '(' :: '?' :: ':' :: cs) = run n (start.inside [wholeGroup]) cs := by
  rfl

variable {r : Reading}

theorem run_closing_whole {n : Nat} (outermost : r.outer = []) (enough : closing.length < n) :
    run n (r.inside [wholeGroup]) closing = .ok r.body.whole := by
  obtain ⟨n, rfl⟩ : ∃ m, n = m + 3 := ⟨n - 3, (Nat.sub_add_cancel enough).symm⟩
  have opened : (r.inside [wholeGroup]).outer = [wholeGroup] := by
    rw [inside_outer, outermost, List.nil_append]
  rw [run_of_skip_cons (skip_closing _), step_close opened]
  rfl

theorem run_closing_unopened {n : Nat} (outermost : r.outer = []) (enough : closing.length < n) :
    run n (r.inside []) closing = .error .unopenedGroup := by
  obtain ⟨n, rfl⟩ := Nat.exists_eq_add_one_of_ne_zero (Nat.ne_zero_of_lt enough)
  have unopened : (r.inside []).outer = [] := by
    rw [inside_outer, outermost, List.nil_append]
  rw [run_of_skip_cons (skip_closing _), step_unopened unopened]
  rfl

end Reading

section Parsing

variable {source : String} {e : Expr}

theorem parse_eq (source : String) :
    Expr.parse source = Reading.run (source.toList.length + 1) .start source.toList >>= fun e =>
      if nestingLimit < e.depth then .error .tooDeep else .ok e := rfl

theorem parse_eq_ok_iff :
    Expr.parse source = .ok e ↔
      Reading.run (source.toList.length + 1) .start source.toList = .ok e ∧
        e.depth ≤ nestingLimit := by
  rw [parse_eq, Except.bind_eq_ok_iff]
  constructor
  · rintro ⟨e', read, same⟩
    split_ifs at same with deep
    cases same
    exact ⟨read, Nat.le_of_not_lt deep⟩
  · rintro ⟨read, shallow⟩
    exact ⟨e, read, if_neg (Nat.not_lt_of_le shallow)⟩

theorem parse_eq_unopened_iff :
    Expr.parse source = .error .unopenedGroup ↔
      Reading.run (source.toList.length + 1) .start source.toList = .error .unopenedGroup := by
  rw [parse_eq, Except.bind_eq_error_iff]
  constructor
  · rintro (unopened | ⟨e', -, same⟩)
    · exact unopened
    · split_ifs at same
      cases same
  · exact .inl

theorem closed_toList (source : String) : (source ++ ")$").toList = source.toList ++ closing := by
  rw [String.toList_append]
  rfl

theorem anchored_toList (source : String) :
    (anchored source).toList = '^' :: '(' :: '?' :: ':' :: (source.toList ++ closing) := by
  rw [anchored, String.toList_append, String.toList_append]
  rfl

theorem run_anchored_eq (source : String) :
    ∃ n, (source.toList ++ closing).length < n ∧
      Reading.run ((anchored source).toList.length + 1) .start (anchored source).toList =
        Reading.run n (Reading.start.inside [wholeGroup]) (source.toList ++ closing) := by
  rw [anchored_toList]
  refine ⟨(source.toList ++ closing).length + 3, by omega, ?_⟩
  exact Reading.run_anchored _ _

/-- A pattern that is read between `^(?:` and `)$` is read on its own, unless it closes a group that
it has not opened. -/
theorem parse_of_anchored (h : Expr.parse (anchored source) = .ok e) :
    Expr.parse source = .error .unopenedGroup ∨
      ∃ inner, e = inner.whole ∧ Expr.parse source = .ok inner ∧
        Expr.parse (source ++ ")$") = .error .unopenedGroup := by
  obtain ⟨whole, shallow⟩ := parse_eq_ok_iff.mp h
  obtain ⟨n, enough, same⟩ := run_anchored_eq source
  rw [same] at whole
  have followed := Reading.followed_of_run (r := .start) (Nat.lt_succ_self source.toList.length)
  simp only [parse_eq_unopened_iff, parse_eq_ok_iff, closed_toList]
  generalize Reading.run (source.toList.length + 1) .start source.toList = x at followed
  cases followed with
  | unopened => exact .inl rfl
  | failed wrong => exact (wrong n _ (List.cons_ne_nil _ _) e whole).elim
  | @closed r' outermost later =>
    obtain ⟨m, more, ends⟩ := later n [wholeGroup] enough
    rw [ends, Reading.run_closing_whole outermost more] at whole
    cases whole
    rw [Expr.whole_depth] at shallow
    obtain ⟨k, more, ends⟩ := later _ [] (Nat.lt_succ_self _)
    refine .inr ⟨r'.body, rfl, ⟨rfl, (Nat.le_add_right _ 2).trans shallow⟩, ?_⟩
    exact ends.trans (Reading.run_closing_unopened outermost more)
  | swallowed outermost later =>
    rw [later n _ enough, Reading.finish_of_outer] at whole
    · cases whole
    · exact List.append_ne_nil_of_right_ne_nil _ (List.cons_ne_nil _ _)

/-- A pattern that is read on its own is read between `^(?:` and `)$`, if the parenthesis after it
is one that closes a group. -/
theorem parse_anchored_of_closed (h : Expr.parse source = .ok e)
    (closed : Expr.parse (source ++ ")$") = .error .unopenedGroup)
    (shallow : e.depth + 2 ≤ nestingLimit) : Expr.parse (anchored source) = .ok e.whole := by
  obtain ⟨own, -⟩ := parse_eq_ok_iff.mp h
  rw [parse_eq_unopened_iff, closed_toList] at closed
  obtain ⟨n, enough, same⟩ := run_anchored_eq source
  rw [parse_eq_ok_iff, same, Expr.whole_depth]
  refine ⟨?_, shallow⟩
  have followed := Reading.followed_of_run (r := .start) (Nat.lt_succ_self source.toList.length)
  rw [own] at followed
  cases followed with
  | closed outermost later =>
    obtain ⟨m, more, ends⟩ := later n [wholeGroup] enough
    rw [ends, Reading.run_closing_whole outermost more]
  | swallowed outermost later =>
    have ends := later _ [] (Nat.lt_succ_self _)
    rw [Reading.finish_of_outermost (List.append_eq_nil_iff.mpr ⟨outermost, rfl⟩)] at ends
    cases closed.symm.trans ends

end Parsing

/-- All of a text, from its first character to its last, is a match. -/
def MatchesWhole (p : Pattern) (text : String) : Prop :=
  p.node.Matches text.toList.toArray 0 text.toList.toArray.size

theorem compile_eq_ok_iff {source : String} {p : Pattern} :
    compile source = .ok p ↔ ∃ e n, Expr.parse source = .ok e ∧ e.toNode = .ok n ∧
      n.size ≤ sizeLimit ∧ p = ⟨source, n⟩ := by
  unfold compile
  constructor
  · intro compiled
    obtain ⟨e, parsed, compiled⟩ := Except.bind_eq_ok_iff.mp compiled
    obtain ⟨n, noded, compiled⟩ := Except.bind_eq_ok_iff.mp compiled
    split_ifs at compiled with large
    cases compiled
    exact ⟨e, n, parsed, noded, Nat.le_of_not_lt large, rfl⟩
  · rintro ⟨e, n, parsed, noded, small, rfl⟩
    rw [parsed]
    refine Except.bind_eq_ok_iff.mpr ⟨e, rfl, Except.bind_eq_ok_iff.mpr ⟨n, noded, ?_⟩⟩
    exact if_neg (Nat.not_lt_of_le small)

theorem checkPattern_eq_ok_iff {p : Pattern} {text : String} :
    Format.checkPattern p text = .ok () ↔ p.node.occursIn text = true := by
  unfold Format.checkPattern occursIn
  split_ifs with found
  · simp [found]
  · simp [found]

/-- A pattern that closes no group it has not opened is a pattern of its own if it compiles for
whole texts, and the texts it is then found in are those that match from the first character to the
last. A pattern of its own compiles for whole texts if the parenthesis that is put after it closes a
group, and if the limits allow for what is put around it. -/
theorem whole_of_compileAnchored (source : String) :
    (∀ a, compileAnchored source = .ok a →
      Expr.parse source = .error .unopenedGroup ∨
        ∃ p, compile source = .ok p ∧
          ∀ text, Format.checkPattern a text = .ok () ↔ MatchesWhole p text) ∧
    ∀ p e, compile source = .ok p → Expr.parse source = .ok e →
      ((∃ a, compileAnchored source = .ok a) ↔
        Expr.parse (source ++ ")$") = .error .unopenedGroup ∧
          e.depth + 2 ≤ nestingLimit ∧ p.node.size + 2 * stateSize ≤ sizeLimit) := by
  constructor
  · intro a compiled
    obtain ⟨E, N, parsed, noded, small, rfl⟩ := compile_eq_ok_iff.mp compiled
    rcases parse_of_anchored parsed with unopened | ⟨e, rfl, own, -⟩
    · exact .inl unopened
    · rw [Expr.whole_toNode] at noded
      obtain ⟨n, inner, rfl⟩ := Except.map_eq_ok_iff.mp noded
      have less : n.size ≤ sizeLimit := by
        simp only [Node.size] at small
        omega
      refine .inr ⟨⟨source, n⟩, compile_eq_ok_iff.mpr ⟨e, n, own, inner, less, rfl⟩, fun text => ?_⟩
      exact checkPattern_eq_ok_iff.trans Node.occursIn_whole_iff
  · intro p e compiled own
    obtain ⟨e', n, own', inner, small, rfl⟩ := compile_eq_ok_iff.mp compiled
    obtain rfl : e = e' := Except.ok.inj (own.symm.trans own')
    have sized : (Node.seq (.place .start) (.seq n (.place .stop))).size =
        n.size + 2 * stateSize := by
      simp only [Node.size]
      omega
    constructor
    · rintro ⟨a, whole⟩
      obtain ⟨E, N, parsed, noded, fits, rfl⟩ := compile_eq_ok_iff.mp whole
      rcases parse_of_anchored parsed with unopened | ⟨_, rfl, same, closed⟩
      · cases unopened.symm.trans own
      · obtain rfl : e = _ := Except.ok.inj (own.symm.trans same)
        rw [Expr.whole_toNode, inner] at noded
        cases noded
        have shallow := (parse_eq_ok_iff.mp parsed).2
        rw [Expr.whole_depth] at shallow
        exact ⟨closed, shallow, sized ▸ fits⟩
    · rintro ⟨closed, shallow, fits⟩
      have noded : e.whole.toNode = .ok (.seq (.place .start) (.seq n (.place .stop))) := by
        rw [Expr.whole_toNode, inner]
        rfl
      exact ⟨_, compile_eq_ok_iff.mpr ⟨e.whole, _, parse_anchored_of_closed own closed shallow,
        noded, sized ▸ fits, rfl⟩⟩

theorem whole_of_choice :
    ∃ a p, compileAnchored "a|b" = .ok a ∧ compile "a|b" = .ok p ∧
      ∀ text, Format.checkPattern a text = .ok () ↔ MatchesWhole p text := by
  have compiles : (compileAnchored "a|b").isOk = true := by decide +kernel
  have opens : (Expr.parse "a|b").isOk = true := by decide +kernel
  match compiled : compileAnchored "a|b" with
  | .error f =>
    rw [compiled] at compiles
    cases compiles
  | .ok a =>
    rcases (whole_of_compileAnchored "a|b").1 a compiled with unopened | ⟨p, own, same⟩
    · rw [unopened] at opens
      cases opens
    · exact ⟨a, p, rfl, own, same⟩

/-- A pattern that closes the group around it compiles for whole texts, but not on its own. -/
example :
    (compileAnchored "a)|(?:b").isOk = true ∧ (compile "a)|(?:b").isOk = false := by
  decide +kernel

/-- A pattern that ends in a comment compiles on its own, but not for whole texts. -/
example :
    (compileAnchored "(?x)a # letter").isOk = false ∧
      (compile "(?x)a # letter").isOk = true := by
  decide +kernel

end Jadn.Pattern
