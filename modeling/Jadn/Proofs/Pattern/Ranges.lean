import Jadn.Proofs.Pattern.Escapes

/-!
Reading the items of classes in brackets: names of classes, single characters and ranges.
-/

set_option autoImplicit false

namespace Jadn.Pattern

def sign (after : List Char → List Char) : List Char → Bool × List Char
  | '^' :: cs => (true, after cs)
  | cs => (false, cs)

section Sign

variable {after : List Char → List Char}

theorem sign_other {c : Char} {cs : List Char} (other : c ≠ '^') :
    sign after (c :: cs) = (false, c :: cs) := by
  simp [sign, other]

theorem sign_suffix (after : List Char → List Char) (ends : ∀ cs, after cs <:+ cs)
    (cs : List Char) :
    (sign after cs).2 <:+ cs := by
  unfold sign
  split
  · exact (ends _).trans (List.suffix_cons _ _)
  · exact List.suffix_rfl

theorem Carries.sign (carried : ∀ cs, Carries (after cs) (after (cs ++ closing)))
    {cs cs' : List Char} (h : Carries cs cs') : Carries (sign after cs) (sign after cs') := by
  rcases h.shape with ⟨rfl, rfl | rfl⟩ | ⟨c, rest, rfl, rfl⟩
  · exact .kept (false, [])
  · exact .swallowed rfl
  · by_cases negated : c = '^'
    · subst negated
      exact (carried rest).pair
    · rw [sign_other negated, sign_other negated]
      exact .kept (false, c :: rest)

end Sign

section Names

def asciiClassAfter? (negated : Bool) (cs : List Char) : Option (ClassSet × List Char) :=
  match cs.dropWhile (· != ':') with
  | ':' :: ']' :: rest =>
    (AsciiClass.ofName? (String.ofList (cs.takeWhile (· != ':')))).map fun cls =>
      (.ascii negated cls, rest)
  | _ => none

theorem asciiClass?_colon (cs : List Char) :
    asciiClass? (':' :: cs) = asciiClassAfter? (sign id cs).1 (sign id cs).2 := rfl

theorem asciiClass?_other {c : Char} {cs : List Char} (other : c ≠ ':') :
    asciiClass? (c :: cs) = none := by
  simp [asciiClass?, other]

/-- A class ends in the text that it begins in, so it is there whatever follows. -/
theorem asciiClassAfter?_append (negated : Bool) (cs : List Char) :
    asciiClassAfter? negated (cs ++ closing) =
      (asciiClassAfter? negated cs).map fun p => (p.1, p.2 ++ closing) := by
  unfold asciiClassAfter?
  rcases dropWhile_closing (p := (· != ':')) (by decide) cs with ⟨none, none'⟩ | ⟨some, unread, run⟩
  · rw [none, none']
    rfl
  · rw [unread, run]
    match cs.dropWhile (· != ':'), some with
    | [c], _ => simp [closing]
    | c :: d :: rest, _ =>
      by_cases ends : c = ':' ∧ d = ']'
      · obtain ⟨rfl, rfl⟩ := ends
        cases AsciiClass.ofName? (String.ofList (cs.takeWhile (· != ':'))) <;> rfl
      · split
        · next same =>
          simp only [List.cons_append, List.cons.injEq] at same
          exact (ends ⟨same.1, same.2.1⟩).elim
        · split
          · next same =>
            simp only [List.cons.injEq] at same
            exact (ends ⟨same.1, same.2.1⟩).elim
          · rfl

theorem asciiClass?_append (cs : List Char) :
    asciiClass? (cs ++ closing) = (asciiClass? cs).map fun p => (p.1, p.2 ++ closing) := by
  match cs with
  | [] => rfl
  | c :: cs =>
    by_cases colon : c = ':'
    · subst colon
      have signed : sign id (cs ++ closing) = ((sign id cs).1, (sign id cs).2 ++ closing) := by
        match cs with
        | [] => rfl
        | c :: cs =>
          by_cases negated : c = '^'
          · subst negated
            rfl
          · rw [List.cons_append, sign_other negated, sign_other negated]
            rfl
      rw [List.cons_append, asciiClass?_colon, asciiClass?_colon, signed, asciiClassAfter?_append]
    · rw [List.cons_append, asciiClass?_other colon, asciiClass?_other colon]
      rfl

theorem asciiClassAfter?_suffix {negated : Bool} {cs rest : List Char} {cls : ClassSet}
    (h : asciiClassAfter? negated cs = some (cls, rest)) : rest <:+ cs := by
  unfold asciiClassAfter? at h
  split at h
  · next rest' here =>
    obtain ⟨_, -, same⟩ := Option.map_eq_some_iff.mp h
    cases same
    have unread := List.dropWhile_suffix (l := cs) (· != ':')
    rw [here] at unread
    exact ((List.suffix_cons _ rest).trans (List.suffix_cons _ _)).trans unread
  · cases h

theorem asciiClass?_suffix {cs rest : List Char} {cls : ClassSet}
    (h : asciiClass? cs = some (cls, rest)) : rest <:+ cs := by
  match cs with
  | [] => cases h
  | c :: cs =>
    by_cases colon : c = ':'
    · subst colon
      rw [asciiClass?_colon] at h
      have signed := sign_suffix id (fun _ => List.suffix_rfl) cs
      exact ((asciiClassAfter?_suffix h).trans signed).trans (List.suffix_cons _ cs)
    · rw [asciiClass?_other colon] at h
      cases h

end Names
section Items

variable (verbose : Bool)

/-- Reading on behind a class that is at fault leaves nothing that could close it. -/
def Adrift {β : Type} [Remainder β] (b : β) : Prop := Spent b ∨ left b = closing

theorem classItem_other {c : Char} {cs : List Char} (other : c ≠ '\\') :
    classItem verbose (c :: cs) = .ok (.literal ⟨c, false⟩, cs) := by
  unfold classItem
  split
  · next same =>
    cases same
    exact (other rfl).elim
  · next same =>
    cases same
    rfl
  · next same => cases same

theorem classItem_leaves (c : Char) (cs : List Char) : Leaves cs (classItem verbose (c :: cs)) := by
  by_cases escaped : c = '\\'
  · subst escaped
    exact escape_leaves verbose cs
  · rw [classItem_other verbose escaped]
    exact .ok List.suffix_rfl

theorem classItem_extends (c : Char) (cs : List Char) :
    Extends (Stray verbose) (classItem verbose (c :: cs))
      (classItem verbose (c :: (cs ++ closing))) := by
  by_cases escaped : c = '\\'
  · subst escaped
    exact escape_extends verbose (.kept cs)
  · rw [classItem_other verbose escaped, classItem_other verbose escaped]
    exact .kept (Expr.literal ⟨c, false⟩, cs)

theorem significant_append (comment : Bool) (cs : List Char) :
    peek?.significant comment (cs ++ closing) =
      (peek?.significant comment cs <|> some ')') := by
  induction cs generalizing comment with
  | nil => cases comment <;> rfl
  | cons c cs ih =>
    simp only [List.cons_append, peek?.significant]
    split_ifs
    · exact ih comment
    · exact ih true
    · rfl

theorem significant_eq_none {cs : List Char} (h : peek?.significant false cs = none) {c : Char}
    (first : cs.head? = some c) : Text.isBlank c = true ∨ c = '#' := by
  match cs with
  | d :: cs =>
    obtain rfl : d = c := by simpa using first
    by_cases blank : Text.isBlank d = true
    · exact .inl blank
    · by_cases comment : d = '#'
      · exact .inr comment
      · simp [peek?.significant, blank, comment] at h

/-- What is looked for ahead is in the text, or not there in the longer one either. -/
theorem peek?_append_iff {c : Char} (plain : Text.isBlank c = false) (uncommented : c ≠ '#')
    (unclosing : c ≠ ')') (cs : List Char) :
    peek? verbose (cs ++ closing) = some c ↔ peek? verbose cs = some c := by
  cases verbose with
  | false =>
    cases cs with
    | nil => simpa [peek?, closing] using unclosing.symm
    | cons d cs => exact Iff.rfl
  | true =>
    simp only [peek?, if_true, significant_append]
    cases here : peek?.significant false cs with
    | some d => exact Iff.rfl
    | none =>
      have first : cs.head? ≠ some c := by
        intro first
        rcases significant_eq_none here first with blank | comment
        · rw [plain] at blank
          cases blank
        · exact uncommented comment
      simpa [first] using unclosing.symm

def rangeTo (first second : Expr) (rest : List Char) : Except Fault (ClassSet × List Char) := do
  let low ← classLiteralOf first
  let high ← classLiteralOf second
  if high.char < low.char then .error .classRange else return (.range low high, rest)

def rangeEnd (verbose : Bool) (first : Expr) : List Char → Except Fault (ClassSet × List Char)
  | [] => .error .unclosedClass
  | cs => do
    let (second, rest) ← classItem verbose cs
    rangeTo first second rest

def rangeAfter (verbose : Bool) (first : Expr) :
    List Char → Except Fault (ClassSet × List Char)
  | [] => .error .unclosedClass
  | '-' :: rest =>
    let following := peek? verbose rest
    if following == some ']' || following == some '-' then do
      return (← classSetOf first, '-' :: rest)
    else rangeEnd verbose first (skip verbose rest)
  | cs => do
    return (← classSetOf first, cs)

theorem classRange_eq (cs : List Char) :
    classRange verbose cs = (do
      let (first, cs) ← classItem verbose cs
      rangeAfter verbose first (skip verbose cs)) := rfl

theorem rangeTo_leaves (first second : Expr) (rest : List Char) :
    Leaves rest (rangeTo first second rest) := by
  refine .after fun low => .after fun high => ?_
  split_ifs
  · exact .error
  · exact .ok List.suffix_rfl

theorem rangeTo_extends (first second : Expr) {rest rest' : List Char} (h : Carries rest rest') :
    Extends Spent (rangeTo first second rest) (rangeTo first second rest') := by
  refine .after fun low => .after fun high => ?_
  split_ifs
  · exact .error _ _
  · exact .read h.pair

theorem rangeTo_assertion (first : Expr) (kind : Assertion) (rest : List Char)
    (p : ClassSet × List Char) : rangeTo first (.assertion kind) rest ≠ .ok p := by
  unfold rangeTo
  cases classLiteralOf first <;> exact nofun

theorem rangeEnd_leaves (first : Expr) (cs : List Char) :
    Leaves cs (rangeEnd verbose first cs) := by
  match cs with
  | [] => exact .error
  | c :: cs =>
    refine ((classItem_leaves verbose c cs).mono (List.suffix_cons c cs)).bind ?_
    exact fun p => rangeTo_leaves first p.1 p.2

theorem rangeEnd_extends (first : Expr) {cs cs' : List Char} (h : Carries cs cs') :
    Extends Spent (rangeEnd verbose first cs) (rangeEnd verbose first cs') := by
  rcases h.shape with ⟨rfl, rfl | rfl⟩ | ⟨c, rest, rfl, rfl⟩
  · -- The parenthesis is read as the end of the range.
    exact .astray (rangeTo_leaves first (.literal ⟨')', false⟩) ['$']) (by decide)
  · exact .error _ _
  · refine (classItem_extends verbose c rest).bind_pair ?_ ?_
    · intro second rest rest' unread
      exact rangeTo_extends first second unread
    · intro second rest stray p same
      rcases stray with spent | ⟨assertion, -⟩
      · exact (rangeTo_leaves first second rest).spent spent same
      · obtain rfl : second = _ := assertion
        exact (rangeTo_assertion first _ rest p same).elim

theorem rangeAfter_hyphen (first : Expr) (rest : List Char) :
    rangeAfter verbose first ('-' :: rest) =
      if peek? verbose rest = some ']' ∨ peek? verbose rest = some '-' then
        classSetOf first >>= fun set => .ok (set, '-' :: rest)
      else rangeEnd verbose first (skip verbose rest) := by
  simp only [rangeAfter, Bool.or_eq_true, beq_iff_eq]
  rfl

theorem rangeAfter_other (first : Expr) {c : Char} {rest : List Char} (other : c ≠ '-') :
    rangeAfter verbose first (c :: rest) =
      classSetOf first >>= fun set => .ok (set, c :: rest) := by
  simp only [rangeAfter, List.cons.injEq, other, false_and, imp_self, implies_true]
  rfl

theorem rangeAfter_leaves (first : Expr) (cs : List Char) :
    Leaves cs (rangeAfter verbose first cs) := by
  match cs with
  | [] => exact .error
  | c :: rest =>
    by_cases hyphen : c = '-'
    · subst hyphen
      rw [rangeAfter_hyphen]
      split_ifs
      · exact .after fun set => .ok List.suffix_rfl
      · refine (rangeEnd_leaves verbose first _).mono ?_
        exact (skip_suffix verbose rest).trans (List.suffix_cons '-' rest)
    · rw [rangeAfter_other verbose first hyphen]
      exact .after fun set => .ok List.suffix_rfl

theorem rangeAfter_extends (first : Expr) {cs cs' : List Char} (h : Carries cs cs') :
    Extends Adrift (rangeAfter verbose first cs) (rangeAfter verbose first cs') := by
  rcases h.shape with ⟨rfl, rfl | rfl⟩ | ⟨c, rest, rfl, rfl⟩
  · refine .failed fun p same => .inr ?_
    rw [closing, rangeAfter_other verbose first (by decide)] at same
    obtain ⟨set, -, here⟩ := Except.bind_eq_ok_iff.mp same
    cases here
    rfl
  · exact .error _ _
  · by_cases hyphen : c = '-'
    · subst hyphen
      rw [rangeAfter_hyphen, rangeAfter_hyphen]
      simp only [peek?_append_iff verbose (by decide : Text.isBlank ']' = false) (by decide)
        (by decide), peek?_append_iff verbose (by decide : Text.isBlank '-' = false) (by decide)
        (by decide)]
      split_ifs
      · exact .after fun set => .kept (set, '-' :: rest)
      · refine (rangeEnd_extends verbose first (skip_carries verbose rest)).mono ?_
        exact fun _ spent => .inl spent
    · rw [rangeAfter_other verbose first hyphen, rangeAfter_other verbose first hyphen]
      exact .after fun set => .kept (set, c :: rest)

theorem classRange_leaves (c : Char) (cs : List Char) :
    Leaves cs (classRange verbose (c :: cs)) := by
  rw [classRange_eq]
  refine (classItem_leaves verbose c cs).bind ?_
  rintro ⟨first, rest⟩
  exact (rangeAfter_leaves verbose first _).mono (skip_suffix verbose rest)

theorem classRange_extends (c : Char) (cs : List Char) :
    Extends Adrift (classRange verbose (c :: cs)) (classRange verbose (c :: (cs ++ closing))) := by
  rw [classRange_eq, classRange_eq]
  refine (classItem_extends verbose c cs).bind_pair ?_ ?_
  · intro first rest rest' unread
    exact rangeAfter_extends verbose first (unread.skip verbose)
  · intro first rest stray p same
    rcases stray with spent | ⟨assertion, braces, here, -⟩
    · have unread := (rangeAfter_leaves verbose first _).mono (skip_suffix verbose rest)
      exact .inl (unread.spent spent same)
    · obtain rfl : first = _ := assertion
      obtain rfl : rest = _ := here
      dsimp only at same
      rw [skip_cons verbose (by decide) (by decide),
        rangeAfter_other verbose _ (by decide)] at same
      cases same

end Items

end Jadn.Pattern
