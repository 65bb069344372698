import Jadn.Json.Reader
import Jadn.Proofs.Codec.Members
import Jadn.Proofs.Outcome

/-!
Values read from text.

Tokens carry scalars, and the values assembled from them are added to objects under keys of
which each is there once. So no object in a value that was read holds two members of one name.
-/

set_option autoImplicit false

namespace Jadn.Json

theorem distinct_unsignedNumber? {negative : Bool} {digits : List Char} {v : Json}
    (h : unsignedNumber? negative digits = some v) : v.Distinct := by
  have real : ∀ {x : Option Binary64}, x.map Json.real = some v → v.Distinct := by
    intro x h
    obtain ⟨x, -, rfl⟩ := Option.map_eq_some_iff.mp h
    exact .real x
  have shifted : ∀ {shift : Option Int} {x : Int → Option Binary64},
      (shift.bind fun n => (x n).map Json.real) = some v → v.Distinct := by
    intro shift x h
    obtain ⟨n, -, h⟩ := Option.bind_eq_some_iff.mp h
    exact real h
  have whole : ∀ {fits : Bool} {n : Int} {x : Option Binary64},
      (if fits then some (.int n) else x.map Json.real) = some v → v.Distinct := by
    intro fits n x h
    split at h
    · cases h
      exact .int n
    · exact real h
  unfold unsignedNumber? at h
  simp only [] at h
  split at h
  · cases h
  · split at h
    · split at h <;> exact whole h
    · split at h
      · cases h
      · split at h <;> exact shifted h
    · exact shifted h

theorem distinct_number {literal : List Char} {v : Json} (h : number literal = some v) :
    v.Distinct := by
  unfold number at h
  split at h <;> exact distinct_unsignedNumber? h

def Token.Plain (t : Token) : Prop := ∀ v, t = .scalar v → v.Distinct

namespace Lexer

variable {l l' : Lexer} {c : Char}

def Plain (l : Lexer) : Prop := ∀ t ∈ l.tokens, t.Plain

theorem Plain.emit (h : l.Plain) {t : Token} (plain : t.Plain) : (l.emit t).Plain := by
  intro t' member
  rcases List.mem_cons.mp member with rfl | before
  · exact plain
  · exact h t' before

theorem Plain.begin (h : l.Plain) (begun : l.begin c = some l') : l'.Plain := by
  have mark : ∀ t : Token, (∀ v, t ≠ .scalar v) → (l.emit t).Plain :=
    fun t other => h.emit fun v same => absurd same (other v)
  unfold Lexer.begin at begun
  split at begun
  · cases begun
    exact h
  · split at begun
    all_goals try
      cases begun
      exact mark _ (by simp)
    · cases begun
      exact h
    · split at begun
      · cases begun
        exact h
      · split at begun
        · cases begun
          exact h
        · cases begun

theorem Plain.finish (h : l.Plain) (finished : l.finish = some l') : l'.Plain := by
  have scalar : ∀ {v : Json}, v.Distinct → (l.emit (.scalar v)).Plain := by
    intro v distinct
    refine h.emit fun w same => ?_
    cases same
    exact distinct
  unfold Lexer.finish at finished
  split at finished
  · cases finished
    exact h
  · split at finished
    · cases finished
      exact scalar .null
    · cases finished
      exact scalar (.bool true)
    · cases finished
      exact scalar (.bool false)
    · cases finished
  · obtain ⟨v, read, rfl⟩ := Option.map_eq_some_iff.mp finished
    exact scalar (distinct_number read)
  · cases finished

/-- No character makes the tokens anything but plain. -/
theorem Plain.step (h : l.Plain) (stepped : l.step c = some l') : l'.Plain := by
  have begun : l.finish.bind (·.begin c) = some l' → l'.Plain := by
    intro ended
    obtain ⟨l'', finished, begun⟩ := Option.bind_eq_some_iff.mp ended
    exact (h.finish finished).begin begun
  have same : l'.tokens = l.tokens → l'.Plain := by
    intro same t member
    exact h t (same ▸ member)
  unfold Lexer.step at stepped
  simp only [] at stepped
  split at stepped
  case h_1 => exact h.begin stepped
  case h_2 | h_3 =>
    split at stepped
    · cases stepped
      exact same rfl
    · exact begun stepped
  case h_4 =>
    split at stepped
    · cases stepped
      refine h.emit fun v scalar => ?_
      cases scalar
      exact .str _
    · split at stepped
      · cases stepped
        exact same rfl
      · split at stepped <;> cases stepped
        exact same rfl
  case h_5 =>
    split at stepped
    · cases stepped
      exact same rfl
    · obtain ⟨e, -, stepped⟩ := Option.bind_eq_some_iff.mp stepped
      cases stepped
      exact same rfl
  case h_6 =>
    obtain ⟨digit, -, stepped⟩ := Option.bind_eq_some_iff.mp stepped
    split at stepped
    · cases stepped
      exact same rfl
    · obtain ⟨pending, -, stepped⟩ := Option.bind_eq_some_iff.mp stepped
      cases stepped
      exact same rfl
  case h_7 | h_8 =>
    split at stepped <;> cases stepped
    exact same rfl

end Lexer

theorem plain_of_tokens? {text : List Char} {tokens : List Token} (h : tokens? text = some tokens) :
    ∀ t ∈ tokens, t.Plain := by
  obtain ⟨l, read, h⟩ := Option.bind_eq_some_iff.mp h
  obtain ⟨l', finished, h⟩ := Option.bind_eq_some_iff.mp h
  cases h
  have start : Lexer.start.Plain := by simp [Lexer.Plain, Lexer.start]
  have plain : l.Plain :=
    Option.foldlM_induction Lexer.Plain (fun l c l' _ plain => plain.step) start read
  intro t member
  exact plain.finish finished t (List.mem_reverse.mp member)

/-- A container that is open, with nothing in it that is not distinct. -/
def Frame.Distinct : Frame → Prop
  | .array items => ∀ v ∈ items, v.Distinct
  | .object members _ => Json.Distinct (.obj members)

theorem distinct_insert {members : List (String × Json)} {key : String} {v : Json}
    (h : Distinct (.obj members)) (new : v.Distinct) :
    Distinct (.obj (Dict.insert key v members)) := by
  cases h with
  | obj names values =>
    refine .obj (Dict.keys_insert_nodup names key v) fun m member => ?_
    rcases Dict.mem_of_mem_insert member with rfl | before
    · exact new
    · exact values m before

namespace Assembly

variable {a a' : Assembly} {limit : Option Nat} {t : Token}

structure Distinct (a : Assembly) : Prop where
  frames : ∀ f ∈ a.frames, f.Distinct
  value : ∀ v, a.expect = .next v → v.Distinct

theorem Distinct.open? (h : a.Distinct) {f : Frame} {e : Expect} (frame : f.Distinct)
    (before : ∀ v, e ≠ .next v) (opened : a.open? limit f e = some a') : a'.Distinct := by
  unfold Assembly.open? at opened
  split at opened
  · cases opened
  · cases opened
    refine ⟨fun f' member => ?_, fun v same => absurd same (before v)⟩
    rcases List.mem_cons.mp member with rfl | outer
    · exact frame
    · exact h.frames f' outer

theorem Distinct.value? (h : a.Distinct) (plain : t.Plain) (read : a.value? limit t = some a') :
    a'.Distinct := by
  unfold Assembly.value? at read
  split at read
  · next v =>
    cases read
    refine ⟨h.frames, fun w same => ?_⟩
    cases same
    exact plain v rfl
  · exact h.open? (by simp [Frame.Distinct]) (by simp) read
  · have empty : Frame.Distinct (.object [] "") := .obj List.nodup_nil (by simp)
    exact h.open? empty (by simp) read
  · cases read

theorem Distinct.key? (h : a.Distinct) (read : a.key? t = some a') : a'.Distinct := by
  unfold Assembly.key? at read
  split at read
  · next key =>
    split at read
    · next members old outer frames =>
      cases read
      have inner := h.frames
      rw [frames] at inner
      refine ⟨fun f member => ?_, fun v same => by cases same⟩
      rcases List.mem_cons.mp member with rfl | after
      · exact inner (.object members old) List.mem_cons_self
      · exact inner f (List.mem_cons_of_mem _ after)
    · cases read
  · cases read

theorem Distinct.next? (h : a.Distinct) {v : Json} (distinct : v.Distinct)
    (read : a.next? v t = some a') : a'.Distinct := by
  have add : ∀ {items : List Json}, (∀ w ∈ items, w.Distinct) → ∀ w ∈ v :: items, w.Distinct := by
    intro items values w member
    rcases List.mem_cons.mp member with rfl | before
    · exact distinct
    · exact values w before
  -- What is around the innermost container stays.
  have around : ∀ {f f' : Frame} {outer : List Frame}, a.frames = f :: outer → f'.Distinct →
      ∀ g ∈ f' :: outer, g.Distinct := by
    intro f f' outer frames inner g member
    rcases List.mem_cons.mp member with rfl | after
    · exact inner
    · exact h.frames g (frames ▸ List.mem_cons_of_mem _ after)
  have innermost : ∀ {f : Frame} {outer : List Frame}, a.frames = f :: outer → f.Distinct :=
    fun frames => h.frames _ (frames ▸ List.mem_cons_self)
  have closed : ∀ {f : Frame} {outer : List Frame} {w : Json}, a.frames = f :: outer →
      w.Distinct → Assembly.Distinct ⟨outer, .next w⟩ := by
    intro f outer w frames value
    refine ⟨fun g after => h.frames g (frames ▸ List.mem_cons_of_mem _ after), fun u same => ?_⟩
    cases same
    exact value
  unfold Assembly.next? at read
  split at read
  · next items outer frames =>
    cases read
    have values : Frame.Distinct (.array items) := innermost frames
    exact ⟨around frames (add values), by simp⟩
  · next items outer frames =>
    cases read
    have values : Frame.Distinct (.array items) := innermost frames
    refine closed frames (.arr fun w member => ?_)
    exact add values w (List.mem_reverse.mp member)
  · next members key outer frames =>
    cases read
    have values : Frame.Distinct (.object members key) := innermost frames
    exact ⟨around frames (distinct_insert values distinct), by simp⟩
  · next members key outer frames =>
    cases read
    have values : Frame.Distinct (.object members key) := innermost frames
    exact closed frames (distinct_insert values distinct)
  · cases read

theorem Distinct.step (h : a.Distinct) (plain : t.Plain) (stepped : a.step limit t = some a') :
    a'.Distinct := by
  have tail : ∀ {v : Json}, v.Distinct → Assembly.Distinct ⟨a.frames.tail, .next v⟩ := by
    intro v distinct
    refine ⟨fun f member => h.frames f (List.mem_of_mem_tail member), fun w same => ?_⟩
    cases same
    exact distinct
  unfold Assembly.step at stepped
  split at stepped
  · exact h.value? plain stepped
  · split at stepped
    · cases stepped
      exact tail (.arr (by simp))
    · exact h.value? plain stepped
  · exact h.key? stepped
  · split at stepped
    · cases stepped
      exact tail (.obj List.nodup_nil (by simp))
    · exact h.key? stepped
  · split at stepped
    · cases stepped
      exact ⟨h.frames, by simp⟩
    · cases stepped
  · next v expected => exact h.next? (h.value v expected) stepped

theorem Distinct.result? (h : a.Distinct) {v : Json} (result : a.result? = some v) :
    v.Distinct := by
  unfold Assembly.result? at result
  split at result
  · next value _ expected =>
    cases result
    exact h.value v expected
  · cases result

end Assembly

/-- No object in a value that was read from text holds two members of one name. -/
theorem distinct_of_read? {text : String} {limit : Option Nat} {v : Json}
    (h : read? text limit = some v) : v.Distinct := by
  obtain ⟨tokens, read, h⟩ := Option.bind_eq_some_iff.mp h
  obtain ⟨a, assembled, h⟩ := Option.bind_eq_some_iff.mp h
  have plain := plain_of_tokens? read
  have start : Assembly.start.Distinct := ⟨by simp [Assembly.start], by simp [Assembly.start]⟩
  have distinct : a.Distinct := Option.foldlM_induction Assembly.Distinct
    (fun a t a' ht distinct => distinct.step (plain t ht)) start assembled
  exact distinct.result? h

end Jadn.Json
