import Jadn.Proofs.Expansion.Forms

/-!
Which entries of a map can have equal keys.

The keys of an object are distinct texts, but where keys are numbers two texts can stand for one of
them. The entries of a list of keys and values in turn are checked one by one, and no check compares
their keys: what is accepted depends on which entries there are and on how many, so entries of an
accepted list may be written again.
-/

set_option autoImplicit false

namespace Jadn.Validation

variable {s : Schema} {d k : TypeDefinition}

/-- Two keys are texts of one number of a type. -/
inductive Coincide (k : TypeDefinition) : String → String → Prop where
  | integer {key other : String} {n : Int64} (kind : k.baseType = .integer)
      (left : Numeral.int64? key = some n) (right : Numeral.int64? other = some n) :
      Coincide k key other
  | number {key other : String} {x y : Binary64} (kind : k.baseType = .number)
      (left : Binary64.real? key = some x) (right : Binary64.real? other = some y)
      (equal : (x == y) = true) : Coincide k key other

theorem str_beq_iff {text other : String} : (Json.str text == .str other) = true ↔ text = other := by
  change (text == other) = true ↔ text = other
  exact beq_iff_eq

theorem getD_str_beq_iff {α : Type} {make : α → Json} (plain : ∀ a, (make a).str? = none)
    {left right : Option α} {text other : String} (apart : text ≠ other) :
    ((left.map make).getD (.str text) == (right.map make).getD (.str other)) = true ↔
      ∃ a b, left = some a ∧ right = some b ∧ (make a == make b) = true := by
  have number : ∀ (a : α) (text : String),
      (make a == .str text) = false ∧ (Json.str text == make a) = false := by
    intro a text
    have own := plain a
    cases value : make a with
    | str _ =>
      rw [value] at own
      cases own
    | _ => exact ⟨rfl, rfl⟩
  cases left with
  | none =>
    cases right with
    | none =>
      have different : ¬ (Json.str text == .str other) = true := str_beq_iff.not.mpr apart
      simpa using different
    | some b => simp [(number b text).2]
  | some a =>
    cases right with
    | none => simp [(number a other).1]
    | some b => simp

/-- Different keys of an object stand for equal values exactly if they are texts of one number. -/
theorem valueOfKey_beq_iff {key other : String} (apart : key ≠ other) :
    (valueOfKey k key == valueOfKey k other) = true ↔ Coincide k key other := by
  constructor
  · intro same
    unfold valueOfKey at same
    split at same
    · next kind =>
      obtain ⟨n, m, left, right, equal⟩ := (getD_str_beq_iff (fun _ => rfl) apart).mp same
      have : n = m := Int64.toInt_inj.mp (eq_of_beq (α := Int) equal)
      exact .integer kind left (this ▸ right)
    · next kind =>
      obtain ⟨x, y, left, right, equal⟩ := (getD_str_beq_iff (fun _ => rfl) apart).mp same
      exact .number kind left right equal
    · exact absurd (str_beq_iff.mp same) apart
  · rintro (⟨kind, left, right⟩ | ⟨kind, left, right, equal⟩)
    · simp only [valueOfKey, kind]
      exact (getD_str_beq_iff (fun _ => rfl) apart).mpr
        ⟨_, _, left, right, beq_self_eq_true (α := Int) _⟩
    · simp only [valueOfKey, kind]
      exact (getD_str_beq_iff (fun _ => rfl) apart).mpr ⟨_, _, left, right, equal⟩

/-- Any selection of admitted entries is admitted, if there are neither too few nor too many. -/
theorem AdmitsEntries.of_subset {checkKey check : Json → Outcome} {es fs : List (Json × Json)}
    (admits : AdmitsEntries s checkKey check d es) (subset : fs ⊆ es)
    (fits : CountFits s d fs.length) : AdmitsEntries s checkKey check d fs :=
  ⟨fits.limited, fun e he => admits.checked e (subset he), fits.atLeast, fits.atMost⟩

end Jadn.Validation

namespace Jadn.Schema

open Expansion Validation

variable {s : Schema} {name : String} {d : TypeDefinition}

/-- No two entries of an accepted object have equal keys, unless their keys are texts of one number;
and an accepted list of keys and values in turn stays accepted when it is written with any of its
entries, each as often as one likes, as long as their number is within bounds. -/
theorem entries_of_validate (found : s.lookup? name = some d) (kind : d.kind = .mapOf) {v : Json}
    (distinct : v.Distinct) (accepted : s.validate name v = .ok ()) :
    ∃ k es, d.options.ktype.bind s.lookup? = some k ∧ entries d k (d.expand s v) = .ok es ∧
      (∀ ms : Dict Json, v = .obj ms → es.map Prod.fst = ms.keys.map (valueOfKey k) ∧
        ms.keys.Pairwise fun key other =>
          (valueOfKey k key == valueOfKey k other) = true ↔ Coincide k key other) ∧
      ∀ vs, v = .arr vs → ∀ ws fs, pairs? ws = some fs → fs ⊆ es → CountFits s d fs.length →
        s.validate name (.arr ws) = .ok () := by
  have checked : ∀ v, s.validate name v = .ok () ↔ checkMapOf s s.checkInside d
      (expandLevel s (expandLevels s s.limits.maxDepth) d v) = .ok () := by
    intro v
    rw [validate_of_lookup found, under_eq_ok_iff]
    simp only [checkLevel, kind]
  obtain ⟨k, keys, t, type, es, read, admits⟩ := checkMapOf_eq_ok_iff.mp ((checked v).mp accepted)
  refine ⟨k, es, keys, read, ?_, ?_⟩
  · rintro ms rfl
    rw [expandLevel_mapOf kind] at read
    cases read
    refine ⟨by simp [Dict.keys, Function.comp_def], distinct.keys_nodup.imp ?_⟩
    exact fun apart => valueOfKey_beq_iff apart
  · rintro vs rfl ws fs pairs subset fits
    rw [checked, expandLevel_flat kind]
    refine checkMapOf_eq_ok_iff.mpr ⟨k, keys, t, type, fs, ?_, admits.of_subset subset fits⟩
    simp only [entries, pairs, Option.elim_some]

def counts : TypeDefinition where
  name := "Counts"
  options := { ktype := some "String", vtype := some "Integer" }
  description := ""
  kind := .mapOf

def volumes : TypeDefinition where
  name := "Volumes"
  options := { ktype := some "Integer", vtype := some "Integer" }
  description := ""
  kind := .mapOf

def libraries : Schema where
  info := {}
  types := [counts, volumes]
  limits := {}
  extensions := []
  fieldTypes := []
  patterns := []

/-- A word that is listed twice is accepted, and so is a volume whose number is written in two ways
as keys of an object. -/
theorem entries_repeated :
    (libraries.validate "Counts" (.arr [.str "a", .int 1, .str "a", .int 2]) = .ok () ∧
      ∃ es, entries counts (.plain .string "String" {}) (counts.expand libraries
          (.arr [.str "a", .int 1, .str "a", .int 2])) = .ok es ∧
        ¬ es.Pairwise fun e e' => (e.1 == e'.1) = false) ∧
    libraries.validate "Volumes" (.obj [("1", .int 1), ("01", .int 2)]) = .ok () ∧
      ∃ es, entries volumes (.plain .integer "Integer" {}) (volumes.expand libraries
          (.obj [("1", .int 1), ("01", .int 2)])) = .ok es ∧
        ¬ es.Pairwise fun e e' => (e.1 == e'.1) = false := by
  refine ⟨⟨rfl, _, rfl, fun apart => ?_⟩, rfl, _, rfl, fun apart => ?_⟩
  all_goals cases (List.pairwise_cons.mp apart).1 _ List.mem_cons_self

/-- A list with one word is accepted, so it is accepted with this word twice. -/
theorem entries_of_counts :
    libraries.validate "Counts" (.arr [.str "a", .int 1]) = .ok () ∧
      libraries.validate "Counts" (.arr [.str "a", .int 1, .str "a", .int 1]) = .ok () := by
  have accepted : libraries.validate "Counts" (.arr [.str "a", .int 1]) = .ok () := rfl
  have distinct : (Json.arr [.str "a", .int 1]).Distinct :=
    .arr (by simp [Json.Distinct.str, Json.Distinct.int])
  obtain ⟨k, es, keys, read, -, listed⟩ :=
    entries_of_validate (d := counts) rfl rfl distinct accepted
  cases read
  exact ⟨accepted, listed _ rfl _ [(.str "a", .int 1), (.str "a", .int 1)] rfl (by simp)
    ⟨by decide, by decide, by decide⟩⟩

end Jadn.Schema
