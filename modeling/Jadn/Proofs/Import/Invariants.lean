import Jadn.Proofs.Equality
import Jadn.Proofs.Import.Steps
import Mathlib.Data.List.Nodup
import Mathlib.Logic.Relation

/-!
What holds of the state of the importer, and what a run does to it.

A finished import appends finished definitions and keeps the local names that were noted
before; meanwhile the definitions whose references are being followed stay unfinished. Every
definition that is met is settled: its local name is that of a definition which equals it with
other names in place of those that it refers to. And every definition that is met is reached
from the one that was asked for, through definitions under their local names.
-/

set_option autoImplicit false

namespace Jadn.Import

open Relation (ReflTransGen)

/-- Names that can stand for definitions of packages: those that they declare and those that
definitions are renamed to. -/
structure Names (src : Sources) (Good : String → Prop) : Prop where
  declared : ∀ key d, src.definition? key = some d → Good key.2
  renamed : ∀ key name, src.Renames key name → Good name

structure Naming (src : Sources) (Good : String → Prop) : Prop extends Names src Good where
  unmarked : ∀ x, Good x → Unmarked x

def Sources.Step (src : Sources) (held : String → Option TypeDefinition)
    (p q : (String × String) × String) : Prop :=
  ∃ d e x, src.definition? p.1 = some d ∧ held p.2 = some e ∧
    (x, q.2) ∈ d.referredNames.zip e.referredNames ∧ src.target? p.1.1 x = some q.1

def State.localName (st : State) (src : Sources) (package x : String) : String :=
  ((src.target? package x).bind st.memo).getD x

/-- A local name is that of a definition equal to the one that it stands for, up to the names
referred to, which are all accounted for. -/
def Settled (src : Sources) (Good : String → Prop) (st : State) (key : String × String)
    (name : String) : Prop :=
  ∃ (d e : TypeDefinition) (g : String → String), src.definition? key = some d ∧
    st.held src.base name = some e ∧ (e == (d.replaced g).renamed name) = true ∧
    ∀ x ∈ d.referredNames, (BaseType.ofName? x).isSome ∧ g x = x ∨
      Good (g x) ∧ ∃ target, src.target? key.1 x = some target ∧ src.Named target (g x) ∧
        (st.memo target).isSome

/-- A name that was given up while a definition refers to it in the marked type of a field. -/
def Lost (src : Sources) (st : State) (e : TypeDefinition) (x : String) : Prop :=
  (∃ f ∈ e.fields, f.typeRef = markedReference x) ∧
    ∃ key, src.Renames key x ∧ (st.held src.base key.2).isSome

structure Sound (src : Sources) (Good : String → Prop) (st : State) : Prop where
  distinct : st.imported.keys.Nodup
  apart : ∀ name ∈ st.imported.keys, src.base.get? name = none
  named : ∀ name e, (name, some e) ∈ st.imported → e.name = name
  listed : ∀ name ∈ st.imported.keys, Good name
  used : ∀ key name, st.memo key = some name → st.isUsed src.base name = true
  good : ∀ key name, st.memo key = some name → Good name
  stands : ∀ key name, st.memo key = some name → src.Named key name

def finished (new : Dict TypeDefinition) : Dict (Option TypeDefinition) :=
  new.map fun e => (e.1, some e.2)

/-- Finished definitions are appended and local names are noted, nothing else changes. -/
structure Grows (st st' : State) : Prop where
  imported : ∃ new : Dict TypeDefinition,
    st'.imported = st.imported ++ finished new
  memo : ∀ key name, st.memo key = some name → st'.memo key = some name

/-- The effect of following some definitions. Where they refer to each other is said of names
that are not taken for marked references. -/
structure Run (src : Sources) (Good : String → Prop) (roots : String × String → Prop)
    (st st' : State) : Prop where
  grows : Grows st st'
  settled : ∀ key name, st.memo key = none → st'.memo key = some name →
    Settled src Good st' key name
  reached : (∀ x, Good x → Unmarked x) → ∀ key name, st.memo key = none →
    st'.memo key = some name → ∃ root first, roots root ∧ st.memo root = none ∧
      st'.memo root = some first ∧
        ReflTransGen (src.Step (st'.held src.base)) (root, first) (key, name)
  closed : (∀ x, Good x → Unmarked x) → ∀ name e, (name, some e) ∈ st'.imported →
    name ∉ st.imported.keys → ∀ x ∈ e.referredNames, (BaseType.ofName? x).isSome ∨
      st'.isUsed src.base x = true ∨ Lost src st' e x

theorem State.isUsed_iff {st : State} {base : Schema} {name : String} :
    st.isUsed base name = true ↔ (base.get? name).isSome ∨ name ∈ st.imported.keys := by
  simp only [State.isUsed, Bool.or_eq_true, Dict.contains_iff_mem_keys]

theorem State.isUsed_eq_false_iff {st : State} {base : Schema} {name : String} :
    st.isUsed base name = false ↔ base.get? name = none ∧ name ∉ st.imported.keys := by
  rw [isUsed, Bool.or_eq_false_iff, Option.isSome_eq_false_iff, Option.isNone_iff_eq_none]
  rw [← Bool.not_eq_true, Dict.contains_iff_mem_keys]

namespace Grows

variable {st st' st'' : State} {base : Schema}

theorem refl (st : State) : Grows st st := ⟨⟨[], by simp [finished]⟩, fun _ _ h => h⟩

theorem trans (first : Grows st st') (second : Grows st' st'') : Grows st st'' := by
  obtain ⟨new, grown⟩ := first.imported
  obtain ⟨new', grown'⟩ := second.imported
  refine ⟨⟨new ++ new', ?_⟩, fun key name h => second.memo key name (first.memo key name h)⟩
  simp [grown', grown, finished]

theorem held (grows : Grows st st') {name : String} {e : TypeDefinition}
    (h : st.held base name = some e) : st'.held base name = some e := by
  obtain ⟨new, grown⟩ := grows.imported
  unfold State.held at h ⊢
  rw [grown, List.lookup_append]
  cases declared : base.get? name with
  | some d => simpa [declared] using h
  | none =>
    cases imported : st.imported.lookup name with
    | none => simp [declared, imported] at h
    | some d => simpa [declared, imported] using h

theorem isUsed (grows : Grows st st') {name : String} (h : st.isUsed base name = true) :
    st'.isUsed base name = true := by
  obtain ⟨new, grown⟩ := grows.imported
  rw [State.isUsed_iff] at h ⊢
  rw [grown, Dict.keys, List.map_append]
  exact h.imp_right (List.mem_append_left _)

end Grows

section Transport

variable {src : Sources} {Good : String → Prop} {st st' : State}

theorem Settled.mono (held : ∀ n e, st.held src.base n = some e → st'.held src.base n = some e)
    (memo : ∀ k, (st.memo k).isSome → (st'.memo k).isSome) {key : String × String} {name : String}
    (h : Settled src Good st key name) : Settled src Good st' key name := by
  obtain ⟨d, e, g, declared, existing, same, names⟩ := h
  refine ⟨d, e, g, declared, held _ _ existing, same, fun x hx => ?_⟩
  rcases names x hx with base | ⟨good, target, leads, named, met⟩
  · exact Or.inl base
  · exact Or.inr ⟨good, target, leads, named, memo target met⟩

theorem Lost.mono (held : ∀ n e, st.held src.base n = some e → st'.held src.base n = some e)
    {e : TypeDefinition} {x : String} (h : Lost src st e x) : Lost src st' e x := by
  obtain ⟨marked, key, renames, existing⟩ := h
  obtain ⟨e', found⟩ := Option.isSome_iff_exists.mp existing
  exact ⟨marked, key, renames, by simp [held _ _ found]⟩

theorem Sources.Step.mono {held held' : String → Option TypeDefinition}
    (h : ∀ n e, held n = some e → held' n = some e) {p q : (String × String) × String}
    (step : src.Step held p q) : src.Step held' p q := by
  obtain ⟨d, e, x, declared, existing, rest⟩ := step
  exact ⟨d, e, x, declared, h _ _ existing, rest⟩

theorem State.isUsed_of_held {base : Schema} {name : String} {e : TypeDefinition}
    (h : st.held base name = some e) : st.isUsed base name = true := by
  unfold State.held at h
  simp only [State.isUsed, Dict.contains, Bool.or_eq_true]
  rcases Option.or_eq_some_iff.mp h with declared | ⟨-, imported⟩
  · exact Or.inl (by simp [declared])
  · exact Or.inr (by simp [Option.join_eq_some_iff.mp imported])

end Transport

namespace Run

variable {src : Sources} {Good : String → Prop} {roots roots' : String × String → Prop}
  {st st' st'' : State}

theorem refl (st : State) : Run src Good roots st st := by
  refine ⟨Grows.refl st, ?_, ?_, ?_⟩
  · intro key name unmet met
    rw [unmet] at met
    cases met
  · intro _ key name unmet met
    rw [unmet] at met
    cases met
  · intro _ name e entry new
    exact absurd (List.mem_map_of_mem entry) new

theorem mono (h : Run src Good roots st st') (more : ∀ key, roots key → roots' key) :
    Run src Good roots' st st' := by
  refine { h with reached := ?_ }
  intro unmarked key name unmet met
  obtain ⟨root, first, asked, rest⟩ := h.reached unmarked key name unmet met
  exact ⟨root, first, more root asked, rest⟩

theorem trans (distinct : st''.imported.keys.Nodup) (first : Run src Good roots st st')
    (second : Run src Good roots st' st'') : Run src Good roots st st'' := by
  have held : ∀ n e, st'.held src.base n = some e → st''.held src.base n = some e :=
    fun n e => second.grows.held
  have memo : ∀ k, (st'.memo k).isSome → (st''.memo k).isSome := by
    intro k h
    obtain ⟨name, noted⟩ := Option.isSome_iff_exists.mp h
    simp [second.grows.memo k name noted]
  -- What is met at the end was met by the first run or is met by the second one.
  have split : ∀ key name, st''.memo key = some name →
      st'.memo key = some name ∨ st'.memo key = none := by
    intro key name met
    cases before : st'.memo key with
    | none => exact Or.inr rfl
    | some other =>
      rw [second.grows.memo key other before] at met
      exact Or.inl met
  refine ⟨first.grows.trans second.grows, ?_, ?_, ?_⟩
  · intro key name unmet met
    rcases split key name met with early | late
    · exact (first.settled key name unmet early).mono held memo
    · exact second.settled key name late met
  · intro unmarked key name unmet met
    rcases split key name met with early | late
    · obtain ⟨root, start, asked, new, noted, steps⟩ :=
        first.reached unmarked key name unmet early
      exact ⟨root, start, asked, new, second.grows.memo root start noted,
        ReflTransGen.mono (fun _ _ => Sources.Step.mono held) _ _ steps⟩
    · obtain ⟨root, start, asked, new, noted, steps⟩ :=
        second.reached unmarked key name late met
      refine ⟨root, start, asked, ?_, noted, steps⟩
      cases before : st.memo root with
      | none => rfl
      | some other =>
        rw [first.grows.memo root other before] at new
        cases new
  · intro unmarked name e entry new x hx
    by_cases early : name ∈ st'.imported.keys
    · obtain ⟨o, member⟩ : ∃ o, (name, o) ∈ st'.imported := by
        simpa [Dict.keys] using early
      obtain ⟨added, grown⟩ := second.grows.imported
      have kept : (name, o) ∈ st''.imported := by
        rw [grown]
        exact List.mem_append_left _ member
      have same : o = some e := by
        have found := lookup_of_mem distinct kept
        rw [lookup_of_mem distinct entry] at found
        exact (Option.some.inj found).symm
      subst same
      rcases first.closed unmarked name e member new x hx with base | used | lost
      · exact Or.inl base
      · exact Or.inr (Or.inl (second.grows.isUsed used))
      · exact Or.inr (Or.inr (lost.mono held))
    · exact second.closed unmarked name e entry early x hx

end Run

section Following

variable {src : Sources} {Good : String → Prop}

def State.Leads (st : State) (src : Sources) (package x : String) : Prop :=
  (BaseType.ofName? x).isSome ∨ ∃ target, src.target? package x = some target ∧
    (st.memo target).isSome

theorem State.localName_of_baseType (st : State) {package x : String}
    (base : (BaseType.ofName? x).isSome) : st.localName src package x = x := by
  simp [State.localName, Sources.target?, base]

theorem State.localName_of_memo {st : State} {package x name : String} {target : String × String}
    (leads : src.target? package x = some target) (noted : st.memo target = some name) :
    st.localName src package x = name := by
  simp [State.localName, leads, noted]

theorem State.Leads.localName_cases {st : State} {package x : String}
    (h : st.Leads src package x) :
    (BaseType.ofName? x).isSome ∧ st.localName src package x = x ∨
      ∃ target, src.target? package x = some target ∧
        st.memo target = some (st.localName src package x) := by
  rcases h with base | ⟨target, leads, met⟩
  · exact Or.inl ⟨base, st.localName_of_baseType base⟩
  · obtain ⟨name, noted⟩ := Option.isSome_iff_exists.mp met
    rw [State.localName_of_memo leads noted]
    exact Or.inr ⟨target, leads, noted⟩

theorem State.Leads.memo_eq {st : State} {package x : String} {target : String × String}
    (h : st.Leads src package x) (leads : src.target? package x = some target) :
    st.memo target = some (st.localName src package x) := by
  rcases h.localName_cases with ⟨base, -⟩ | ⟨other, leads', noted⟩
  · simp [Sources.target?, base] at leads
  · rw [leads] at leads'
    cases leads'
    exact noted

theorem Grows.leads {st st' : State} (grows : Grows st st') {package x : String}
    (h : st.Leads src package x) :
    st'.Leads src package x ∧ st'.localName src package x = st.localName src package x := by
  rcases h.localName_cases with ⟨base, stands⟩ | ⟨target, leads, noted⟩
  · exact ⟨Or.inl base, by rw [stands, st'.localName_of_baseType base]⟩
  · have kept := grows.memo target _ noted
    exact ⟨Or.inr ⟨target, leads, Option.isSome_of_eq_some kept⟩,
      State.localName_of_memo leads kept⟩

def Imports (src : Sources) (Good : String → Prop) (importer : Importer) : Prop :=
  ∀ package label name chain st result st', src.Label label package → Sound src Good st →
    (importer package label name chain).run st = .ok (result, st') →
      Sound src Good st' ∧ st'.memo (package, name) = some result ∧
        Run src Good (· = (package, name)) st st'

theorem follow_run {importer : Importer} (imports : Imports src Good importer)
    {schema : Schema} {package label x y : String} {chain : List String} {st st' : State}
    (found : src.packages.lookup package = some schema) (labelled : src.Label label package)
    (sound : Sound src Good st)
    (h : ((Site.within schema package label).localName src importer chain x).run st = .ok (y, st')) :
    Sound src Good st' ∧ y = st'.localName src package x ∧ st'.Leads src package x ∧
      Run src Good (fun target => src.target? package x = some target) st st' := by
  rcases localName_within_eq_ok found labelled h with ⟨base, rfl, rfl⟩ | ⟨key, inner, leads, h⟩
  · exact ⟨sound, (st'.localName_of_baseType base).symm, Or.inl base, Run.refl st'⟩
  · obtain ⟨labelled, imported⟩ := h
    obtain ⟨sound', noted, run⟩ := imports _ _ _ _ _ _ _ labelled sound imported
    refine ⟨sound', (State.localName_of_memo leads noted).symm, ?_, run.mono ?_⟩
    · exact Or.inr ⟨key, leads, Option.isSome_of_eq_some noted⟩
    · rintro target rfl
      exact leads

theorem mapM_run {α β : Type} {f : α → Resolver β} {xs : List α} {ys : List β}
    {roots : α → String × String → Prop} {P : State → α → β → Prop} {st st' : State}
    (stable : ∀ {s s' : State} {x : α} {y : β}, Grows s s' → P s x y → P s' x y)
    (step : ∀ x ∈ xs, ∀ {s s' : State} {y : β}, Sound src Good s → (f x).run s = .ok (y, s') →
      Sound src Good s' ∧ P s' x y ∧ Run src Good (roots x) s s')
    (sound : Sound src Good st) (h : (xs.mapM f).run st = .ok (ys, st')) :
    Sound src Good st' ∧ List.Forall₂ (P st') xs ys ∧
      Run src Good (fun target => ∃ x ∈ xs, roots x target) st st' := by
  induction xs generalizing st ys with
  | nil =>
    cases h
    exact ⟨sound, .nil, Run.refl _⟩
  | cons x xs ih =>
    obtain ⟨y, st₁, zs, first, others, rfl⟩ := run_mapM_cons_eq_ok_iff.mp h
    obtain ⟨sound₁, holds, run₁⟩ := step x List.mem_cons_self sound first
    obtain ⟨sound₂, rest, run₂⟩ := ih (fun z hz => step z (List.mem_cons_of_mem _ hz)) sound₁ others
    refine ⟨sound₂, .cons (stable run₂.grows holds) rest, ?_⟩
    refine (run₁.mono ?_).trans sound₂.distinct (run₂.mono ?_)
    · exact fun target h => ⟨x, List.mem_cons_self, h⟩
    · rintro target ⟨z, hz, h⟩
      exact ⟨z, List.mem_cons_of_mem _ hz, h⟩

theorem eq_map_of_forall₂ {α β : Type} {g : α → β} {Q : α → Prop} {xs : List α} {ys : List β}
    (h : List.Forall₂ (fun x y => y = g x ∧ Q x) xs ys) : ys = xs.map g ∧ ∀ x ∈ xs, Q x := by
  induction h with
  | nil => simp
  | cons head tail ih =>
    obtain ⟨rfl, holds⟩ := head
    obtain ⟨rfl, rest⟩ := ih
    exact ⟨rfl, by simpa using ⟨holds, rest⟩⟩

theorem mem_zip_map_append {α β : Type} {f : α → β} {xs : List α} {ys : List β} {x : α} {y : β} :
    (x, y) ∈ xs.zip (xs.map f ++ ys) ↔ x ∈ xs ∧ f x = y := by
  induction xs with
  | nil => simp
  | cons z xs ih =>
    simp only [List.map_cons, List.cons_append, List.zip_cons_cons, List.mem_cons, Prod.mk.injEq, ih]
    constructor
    · rintro (⟨rfl, rfl⟩ | ⟨member, rfl⟩)
      · exact ⟨Or.inl rfl, rfl⟩
      · exact ⟨Or.inr member, rfl⟩
    · rintro ⟨rfl | member, rfl⟩
      · exact Or.inl ⟨rfl, rfl⟩
      · exact Or.inr ⟨member, rfl⟩

/-- To follow the references of a definition in turn is one run from all of them. -/
theorem followAll_run {importer : Importer} (imports : Imports src Good importer)
    {schema : Schema} {package label : String} {chain xs ys : List String} {st st' : State}
    (found : src.packages.lookup package = some schema) (labelled : src.Label label package)
    (sound : Sound src Good st)
    (h : (xs.mapM ((Site.within schema package label).localName src importer chain)).run st = .ok (ys, st')) :
    Sound src Good st' ∧ ys = xs.map (st'.localName src package) ∧
      (∀ x ∈ xs, st'.Leads src package x) ∧
      Run src Good (fun target => ∃ x ∈ xs, src.target? package x = some target) st st' := by
  have stable : ∀ {s s' : State} {x y : String}, Grows s s' →
      y = s.localName src package x ∧ s.Leads src package x →
        y = s'.localName src package x ∧ s'.Leads src package x := by
    rintro s s' x y grows ⟨rfl, leads⟩
    obtain ⟨leads', same⟩ := grows.leads leads
    exact ⟨same.symm, leads'⟩
  have step : ∀ x ∈ xs, ∀ {s s' : State} {y : String}, Sound src Good s →
      ((Site.within schema package label).localName src importer chain x).run s = .ok (y, s') →
        Sound src Good s' ∧ (y = s'.localName src package x ∧ s'.Leads src package x) ∧
          Run src Good (fun target => src.target? package x = some target) s s' := by
    intro x hx s s' y sound h
    obtain ⟨sound', stands, leads, run⟩ := follow_run imports found labelled sound h
    exact ⟨sound', ⟨stands, leads⟩, run⟩
  obtain ⟨sound', answers, run⟩ := mapM_run
    (P := fun s x y => y = s.localName src package x ∧ s.Leads src package x) stable step sound h
  obtain ⟨names, leads⟩ := eq_map_of_forall₂ answers
  exact ⟨sound', names, leads, run⟩

end Following

end Jadn.Import
