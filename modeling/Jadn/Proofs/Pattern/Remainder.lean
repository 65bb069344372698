import Jadn.Pattern.Parser
import Jadn.Proofs.Outcome

/-!
Reading a pattern that more text follows.

Each reader leaves an end of the text that it is given (`Leaves`). Given a longer text it reads the
same (`Extends`): what follows is left over, or a comment that is open at the end of the pattern
swallows it. Only where the pattern itself is at fault can a reader go on into what follows, and
then it leaves nothing that could close a group.
-/

set_option autoImplicit false

namespace Jadn.Pattern

/-- What stands after a pattern that has to match whole texts. -/
def closing : List Char := [')', '$']

class Remainder (β : Type) where
  left : β → List Char
  /-- The same result, of a text that `closing` follows. -/
  followed : β → β

export Remainder (left followed)

instance : Remainder (List Char) := ⟨id, (· ++ closing)⟩

instance {α β : Type} [Remainder β] : Remainder (α × β) :=
  ⟨fun p => left p.2, fun p => (p.1, followed p.2)⟩

section Reading

variable {α β γ : Type} [Remainder β] [Remainder γ]

@[simp]
theorem left_chars (cs : List Char) : left cs = cs := rfl

@[simp]
theorem left_pair (a : α) (b : β) : left (a, b) = left b := rfl

@[simp]
theorem followed_chars (cs : List Char) : followed cs = cs ++ closing := rfl

def Leaves (cs : List Char) (x : Except Fault β) : Prop := ∀ b, x = .ok b → left b <:+ cs

theorem Leaves.ok {cs : List Char} {b : β} (h : left b <:+ cs) : Leaves cs (.ok b) := by
  rintro _ ⟨⟩
  exact h

theorem Leaves.error {cs : List Char} {e : Fault} : Leaves (β := β) cs (.error e) := nofun

theorem Leaves.mono {cs cs' : List Char} {x : Except Fault β} (h : Leaves cs x)
    (within : cs <:+ cs') : Leaves cs' x := fun b same => (h b same).trans within

theorem Leaves.bind {cs : List Char} {x : Except Fault β} {f : β → Except Fault γ}
    (first : Leaves cs x) (rest : ∀ b, Leaves (left b) (f b)) : Leaves cs (x >>= f) := by
  intro c h
  obtain ⟨b, hb, hc⟩ := Except.bind_eq_ok_iff.mp h
  exact (rest b c hc).trans (first b hb)

theorem Leaves.after {cs : List Char} {x : Except Fault α} {f : α → Except Fault β}
    (h : ∀ a, Leaves cs (f a)) : Leaves cs (x >>= f) := by
  intro b same
  obtain ⟨a, -, here⟩ := Except.bind_eq_ok_iff.mp same
  exact h a b here

theorem Leaves.map_fst {δ : Type} {cs : List Char} {x : Except Fault (α × β)} {f : α → δ}
    (h : Leaves cs x) : Leaves cs (x.map fun p => (f p.1, p.2)) := by
  intro c same
  obtain ⟨p, here, rfl⟩ := Except.map_eq_ok_iff.mp same
  exact h p here

theorem Leaves.left_eq_nil {x : Except Fault β} (h : Leaves [] x) {b : β} (same : x = .ok b) :
    left b = [] :=
  List.suffix_nil.mp (h b same)

def Spent (b : β) : Prop := ')' ∉ left b

theorem Leaves.spent {cs : List Char} {x : Except Fault β} (h : Leaves cs x) (none : ')' ∉ cs)
    {b : β} (same : x = .ok b) : Spent b :=
  fun found => none ((h b same).subset found)

/-- What is read of a text, and of the text with `closing` after it. -/
inductive Carries : β → β → Prop where
  | kept (b : β) : Carries b (followed b)
  | swallowed {b : β} (h : left b = []) : Carries b b

theorem carries_iff {b b' : β} :
    Carries b b' ↔ b' = followed b ∨ left b = [] ∧ b' = b := by
  constructor
  · rintro (_ | h)
    · exact .inl rfl
    · exact .inr ⟨h, rfl⟩
  · rintro (rfl | ⟨h, rfl⟩)
    · exact .kept b
    · exact .swallowed h

theorem carries_pair_iff {a a' : α} {b b' : β} :
    Carries (a, b) (a', b') ↔ a = a' ∧ Carries b b' := by
  constructor
  · rintro (_ | h)
    · exact ⟨rfl, .kept b⟩
    · exact ⟨rfl, .swallowed h⟩
  · rintro ⟨rfl, _ | h⟩
    · exact .kept (a, b)
    · exact .swallowed h

theorem Carries.parts {p p' : α × β} (h : Carries p p') : p.1 = p'.1 ∧ Carries p.2 p'.2 :=
  carries_pair_iff.mp h

theorem Carries.pair {a : α} {b b' : β} (h : Carries b b') : Carries (a, b) (a, b') :=
  carries_pair_iff.mpr ⟨rfl, h⟩

/-- How reading goes on where the text goes on: what can be read is read of the longer text, too.
Where a text is at fault, what is read of the longer one is as described. -/
inductive Extends (Q : β → Prop) : Except Fault β → Except Fault β → Prop where
  | read {b b' : β} (h : Carries b b') : Extends Q (.ok b) (.ok b')
  | failed {e : Fault} {x : Except Fault β} (astray : ∀ b, x = .ok b → Q b) :
    Extends Q (.error e) x

namespace Extends

variable {Q : β → Prop} {R : γ → Prop}

theorem astray {e : Fault} {cs : List Char} {x : Except Fault β} (h : Leaves cs x)
    (none : ')' ∉ cs) : Extends Spent (.error e) x :=
  .failed fun _ same => h.spent none same

theorem kept (b : β) : Extends Q (.ok b) (.ok (followed b)) := .read (.kept b)

theorem error (e e' : Fault) : Extends Q (.error e) (.error e') := .failed nofun

/-- At the end of a text that is swallowed both go on alike. -/
theorem same {x : Except Fault β} (h : Leaves [] x) : Extends Q x x := by
  cases x with
  | error e => exact .error e e
  | ok b => exact .read (.swallowed (h.left_eq_nil rfl))

theorem bind {x x' : Except Fault β} {f g : β → Except Fault γ} (h : Extends Q x x')
    (next : ∀ b b', Carries b b' → x = .ok b → x' = .ok b' → Extends R (f b) (g b'))
    (astray : ∀ b, Q b → ∀ c, g b = .ok c → R c) : Extends R (x >>= f) (x' >>= g) := by
  cases h with
  | read h => exact next _ _ h rfl rfl
  | failed wrong =>
    refine .failed fun c same => ?_
    obtain ⟨b, hb, hc⟩ := Except.bind_eq_ok_iff.mp same
    exact astray b (wrong b hb) c hc

theorem bind_pair {Q : α × β → Prop} {x x' : Except Fault (α × β)} {f g : α × β → Except Fault γ}
    (h : Extends Q x x') (next : ∀ a b b', Carries b b' → Extends R (f (a, b)) (g (a, b')))
    (astray : ∀ a b, Q (a, b) → ∀ c, g (a, b) = .ok c → R c) :
    Extends R (x >>= f) (x' >>= g) := by
  refine h.bind ?_ fun p => astray p.1 p.2
  intro p p' read _ _
  obtain ⟨a, b⟩ := p
  obtain ⟨a', b'⟩ := p'
  obtain ⟨rfl, unread⟩ := read.parts
  exact next a b b' unread

theorem bind_pair_spent {x x' : Except Fault (α × β)} {f g : α × β → Except Fault γ}
    (h : Extends Spent x x')
    (next : ∀ a b b', Carries b b' → Extends Spent (f (a, b)) (g (a, b')))
    (leaves : ∀ a b, Leaves (left b) (g (a, b))) : Extends Spent (x >>= f) (x' >>= g) :=
  h.bind_pair next fun a b spent _ same => (leaves a b).spent spent same

theorem after {x : Except Fault α} {f g : α → Except Fault β}
    (h : ∀ a, Extends Q (f a) (g a)) : Extends Q (x >>= f) (x >>= g) := by
  cases x with
  | error e => exact .error e e
  | ok a => exact h a

theorem mono {R : β → Prop} {x x' : Except Fault β} (h : Extends Q x x') (weaken : ∀ b, Q b → R b) :
    Extends R x x' := by
  cases h with
  | read h => exact .read h
  | failed wrong => exact .failed fun b same => weaken b (wrong b same)

theorem map_fst {δ : Type} {Q : α × β → Prop} {R : δ × β → Prop} {x x' : Except Fault (α × β)}
    {f : α → δ} (h : Extends Q x x') (astray : ∀ a b, Q (a, b) → R (f a, b)) :
    Extends R (x.map fun p => (f p.1, p.2)) (x'.map fun p => (f p.1, p.2)) := by
  cases h with
  | @read p p' h =>
    obtain ⟨same, unread⟩ := carries_pair_iff.mp h
    exact .read (carries_pair_iff.mpr ⟨congrArg f same, unread⟩)
  | failed wrong =>
    refine .failed fun c same => ?_
    obtain ⟨p, here, rfl⟩ := Except.map_eq_ok_iff.mp same
    exact astray p.1 p.2 (wrong p here)

end Extends

/-- The texts that are left over begin alike, or the shorter one is at its end. -/
theorem Carries.shape {cs cs' : List Char} (h : Carries cs cs') :
    cs = [] ∧ (cs' = closing ∨ cs' = []) ∨
      ∃ c rest, cs = c :: rest ∧ cs' = c :: (rest ++ closing) := by
  rcases carries_iff.mp h with rfl | ⟨none, rfl⟩
  · cases cs with
    | nil => exact .inl ⟨rfl, .inl rfl⟩
    | cons c rest => exact .inr ⟨c, rest, rfl, rfl⟩
  · exact .inl ⟨none, .inr none⟩

/-- A reader goes on at the end of a text as it does inside it. -/
theorem extends_of_carries {Q : β → Prop} {f : List Char → Except Fault β}
    (leaves : ∀ cs, Leaves cs (f cs)) (inside : ∀ cs, Extends Q (f cs) (f (cs ++ closing)))
    {cs cs' : List Char} (h : Carries cs cs') : Extends Q (f cs) (f cs') := by
  cases h with
  | kept => exact inside cs
  | swallowed none =>
    obtain rfl : cs = [] := none
    exact .same (leaves [])

end Reading

section Blanks

theorem skipBlanks_suffix (comment : Bool) (cs : List Char) : skipBlanks comment cs <:+ cs := by
  induction cs generalizing comment with
  | nil => cases comment <;> exact List.suffix_rfl
  | cons c cs ih =>
    cases comment with
    | true => exact (ih _).trans (List.suffix_cons c cs)
    | false =>
      unfold skipBlanks
      split_ifs
      · exact (ih _).trans (List.suffix_cons c cs)
      · exact (ih _).trans (List.suffix_cons c cs)
      · exact List.suffix_rfl

theorem skip_suffix (verbose : Bool) (cs : List Char) : skip verbose cs <:+ cs := by
  cases verbose with
  | true => exact skipBlanks_suffix false cs
  | false => exact List.suffix_rfl

@[simp]
theorem skip_nil (verbose : Bool) : skip verbose [] = [] := by
  cases verbose <;> rfl

@[simp]
theorem skip_closing (verbose : Bool) : skip verbose closing = closing := by
  cases verbose <;> decide

theorem skip_cons (verbose : Bool) {c : Char} (plain : Text.isBlank c = false)
    (uncommented : c ≠ '#') (cs : List Char) : skip verbose (c :: cs) = c :: cs := by
  cases verbose with
  | true => simp [skip, skipBlanks, plain, uncommented]
  | false => rfl

theorem skipBlanks_carries (comment : Bool) (cs : List Char) :
    Carries (skipBlanks comment cs) (skipBlanks comment (cs ++ closing)) := by
  induction cs generalizing comment with
  | nil =>
    cases comment with
    | true => exact .swallowed rfl
    | false => exact .kept []
  | cons c cs ih =>
    cases comment with
    | true => exact ih _
    | false =>
      simp only [skipBlanks, List.cons_append]
      split_ifs
      · exact ih _
      · exact ih _
      · exact .kept (c :: cs)

theorem skip_carries (verbose : Bool) (cs : List Char) :
    Carries (skip verbose cs) (skip verbose (cs ++ closing)) := by
  cases verbose with
  | true => exact skipBlanks_carries false cs
  | false => exact .kept cs

theorem Carries.skip {cs cs' : List Char} (h : Carries cs cs') (verbose : Bool) :
    Carries (skip verbose cs) (skip verbose cs') := by
  cases h with
  | kept => exact skip_carries verbose cs
  | swallowed none =>
    obtain rfl : cs = [] := none
    exact .swallowed (skip_nil verbose)

end Blanks

theorem dropWhile_closing {p : Char → Bool} (runs : closing.dropWhile p = []) (cs : List Char) :
    cs.dropWhile p = [] ∧ (cs ++ closing).dropWhile p = [] ∨
      cs.dropWhile p ≠ [] ∧ (cs ++ closing).dropWhile p = cs.dropWhile p ++ closing ∧
        (cs ++ closing).takeWhile p = cs.takeWhile p := by
  have parts := congrArg List.length (List.takeWhile_append_dropWhile (p := p) (l := cs))
  rw [List.dropWhile_append, List.takeWhile_append, runs]
  match here : cs.dropWhile p with
  | [] => exact .inl ⟨rfl, rfl⟩
  | c :: rest =>
    have inside : (cs.takeWhile p).length ≠ cs.length := by
      rw [here, List.length_append, List.length_cons] at parts
      omega
    rw [if_neg inside]
    exact .inr ⟨List.cons_ne_nil c rest, rfl, rfl⟩

section Runs

def charRun (kind : Char → Bool) (verbose : Bool) : Nat → List Char → List Char × List Char
  | fuel + 1, c :: cs =>
    if kind c then
      let (run, rest) := charRun kind verbose fuel (skip verbose cs)
      (c :: run, rest)
    else ([], c :: cs)
  | _, cs => ([], cs)

variable {kind : Char → Bool} (verbose : Bool)

@[simp]
theorem charRun_nil (n : Nat) : charRun kind verbose n [] = ([], []) := by
  cases n <;> rfl

theorem charRun_suffix (n : Nat) (cs : List Char) : (charRun kind verbose n cs).2 <:+ cs := by
  induction n generalizing cs with
  | zero => exact List.suffix_rfl
  | succ n ih =>
    cases cs with
    | nil => exact List.suffix_rfl
    | cons c cs =>
      unfold charRun
      split_ifs
      · exact ((ih _).trans (skip_suffix verbose cs)).trans (List.suffix_cons c cs)
      · exact List.suffix_rfl

theorem charRun_closing (stops : kind ')' = false) (n : Nat) :
    charRun kind verbose n closing = ([], closing) := by
  cases n with
  | zero => rfl
  | succ n => simp [charRun, closing, stops]

theorem charRun_carries_nil (stops : kind ')' = false) {n m : Nat} {cs' : List Char}
    (h : Carries [] cs') : Carries (charRun kind verbose n []) (charRun kind verbose m cs') := by
  rcases carries_iff.mp h with rfl | ⟨-, rfl⟩
  · rw [charRun_nil, followed_chars, List.nil_append, charRun_closing verbose stops]
    exact .kept ([], [])
  · rw [charRun_nil, charRun_nil]
    exact .swallowed rfl

theorem charRun_carries (stops : kind ')' = false) {n m : Nat} {cs cs' : List Char}
    (h : Carries cs cs') (enough : cs.length ≤ n) (enough' : cs'.length ≤ m) :
    Carries (charRun kind verbose n cs) (charRun kind verbose m cs') := by
  induction n generalizing m cs cs' with
  | zero =>
    obtain rfl := List.length_eq_zero_iff.mp (Nat.le_zero.mp enough)
    exact charRun_carries_nil verbose stops h
  | succ n ih =>
    match cs, h with
    | [], h => exact charRun_carries_nil verbose stops h
    | c :: cs, .kept _ =>
      match m with
      | 0 => cases enough'
      | m + 1 =>
        simp only [followed_chars, List.cons_append, List.length_cons,
          Nat.add_le_add_iff_right] at enough enough'
        have less := (skip_suffix verbose cs).length_le
        have less' := (skip_suffix verbose (cs ++ closing)).length_le
        have later := ih (skip_carries verbose cs) (Nat.le_trans less enough)
          (Nat.le_trans less' enough')
        simp only [charRun, followed_chars, List.cons_append]
        split_ifs
        · obtain ⟨same, unread⟩ := later.parts
          exact carries_pair_iff.mpr ⟨congrArg (c :: ·) same, unread⟩
        · exact .kept ([], c :: cs)

theorem digitRun_eq (n : Nat) (cs : List Char) :
    digitRun verbose n cs = charRun Numeral.isDigit verbose n cs := by
  induction n generalizing cs with
  | zero => rfl
  | succ n ih =>
    cases cs with
    | nil => rfl
    | cons c cs => simp only [digitRun, charRun, ih]

theorem boundaryName_eq (n : Nat) (cs : List Char) :
    boundaryName verbose n cs = charRun (fun c => c.isAlpha || c = '-') verbose n cs := by
  induction n generalizing cs with
  | zero => rfl
  | succ n ih =>
    cases cs with
    | nil => rfl
    | cons c cs => simp only [boundaryName, charRun, ih]

theorem digitRun_suffix (n : Nat) (cs : List Char) : (digitRun verbose n cs).2 <:+ cs :=
  digitRun_eq verbose n cs ▸ charRun_suffix verbose n cs

theorem boundaryName_suffix (n : Nat) (cs : List Char) : (boundaryName verbose n cs).2 <:+ cs :=
  boundaryName_eq verbose n cs ▸ charRun_suffix verbose n cs

theorem digitRun_carries {n m : Nat} {cs cs' : List Char} (h : Carries cs cs')
    (enough : cs.length ≤ n) (enough' : cs'.length ≤ m) :
    Carries (digitRun verbose n cs) (digitRun verbose m cs') := by
  rw [digitRun_eq, digitRun_eq]
  exact charRun_carries verbose (by decide) h enough enough'

theorem boundaryName_carries {n m : Nat} {cs cs' : List Char} (h : Carries cs cs')
    (enough : cs.length ≤ n) (enough' : cs'.length ≤ m) :
    Carries (boundaryName verbose n cs) (boundaryName verbose m cs') := by
  rw [boundaryName_eq, boundaryName_eq]
  exact charRun_carries verbose (by decide) h enough enough'

theorem leadingHyphens_eq (n : Nat) (cs : List Char) :
    leadingHyphens verbose n cs =
      let (run, rest) := charRun (· == '-') verbose n cs
      (run.map fun c => .literal ⟨c, false⟩, rest) := by
  induction n generalizing cs with
  | zero => rfl
  | succ n ih =>
    cases cs with
    | nil => rfl
    | cons c cs =>
      by_cases hyphen : c = '-'
      · subst hyphen
        simp [leadingHyphens, charRun, ih]
      · simp [leadingHyphens, charRun, hyphen]

end Runs

end Jadn.Pattern
