import Jadn.Proofs.Expansion.Forms
import Jadn.Proofs.Numeral.Words

/-!
Maps from integers.

The keys of an object are texts, and where keys are integers, a text that is a numeral stands for
its integer. A list of keys and values in turn has the integers themselves. An integer of 64 signed
bits is read back from its text, so both forms are checked alike, whatever the type of the keys asks
of them. One beyond these bits is an integer in a list as long as it fits 64 bits without a sign,
but as the key of an object it stays a text, which no type of integers accepts.
-/

set_option autoImplicit false

namespace Jadn

namespace Validation

open Numeral (Word)

variable {s : Schema} {inner : Checker} {d k : TypeDefinition}

/-- The text of an integer stands for it as a key only if the integer is a signed word. -/
theorem valueOfKey_toString (integer : k.baseType = .integer) (n : Int) :
    valueOfKey k (toString n) = if Word.i64.Holds n then .int n else .str (toString n) := by
  simp only [valueOfKey, integer, Numeral.int64?_toString_eq]
  cases read : Numeral.word? n with
  | none =>
    rw [if_neg (Word.word?_eq_none_iff.mp read)]
    rfl
  | some w =>
    rw [if_pos (Word.i64_holds_of_word? read), ← Numeral.word?_eq_some_iff.mp read]
    rfl

/-- A map from signed words has the same entries in both forms. -/
theorem entries_numbered (integer : k.baseType = .integer) {es : List (Int × Json)}
    (held : ∀ e ∈ es, Word.i64.Holds e.1) :
    entries d k (.obj (es.map fun e => (toString e.1, e.2))) =
      entries d k (.arr (es.flatMap fun e => [.int e.1, e.2])) := by
  have pairs : pairs? (es.flatMap fun e => [.int e.1, e.2]) =
      some (es.map fun e => (.int e.1, e.2)) := by
    clear held
    induction es with
    | nil => rfl
    | cons e es ih =>
      simp only [List.flatMap_cons, List.cons_append, List.nil_append, pairs?, ih]
      rfl
  simp only [entries, pairs, Option.elim_some, List.map_map, Except.ok.injEq]
  refine List.map_congr_left fun e member => ?_
  simp only [Function.comp_apply, valueOfKey_toString integer, if_pos (held e member)]

theorem checkMapOf_numbered (ktype : d.options.ktype.bind s.lookup? = some k)
    (integer : k.baseType = .integer) {es : List (Int × Json)}
    (held : ∀ e ∈ es, Word.i64.Holds e.1) :
    checkMapOf s inner d (.obj (es.map fun e => (toString e.1, e.2))) =
      checkMapOf s inner d (.arr (es.flatMap fun e => [.int e.1, e.2])) := by
  have looked : partType s d "ktype" d.options.ktype = .ok k := partType_eq_ok_iff.mpr ktype
  unfold checkMapOf
  rw [looked]
  simp only [Except.bind, bind, entries_numbered integer held]

theorem checkLevels_str_ne_ok (integer : k.kind = .integer) (levels : Nat) (text : String) :
    checkLevels s levels k (.str text) ≠ .ok () := by
  intro accepted
  cases levels with
  | zero => cases accepted
  | succ levels =>
    rw [checkLevels, checkLevel, integer] at accepted
    cases accepted

/-- An object with a key that is no numeral of a signed word is no map from integers. -/
theorem checkMapOf_ne_ok_of_key (ktype : d.options.ktype.bind s.lookup? = some k)
    (integer : k.kind = .integer) {members : Dict Json} {key : String} {v : Json}
    (member : (key, v) ∈ members) (unread : Numeral.int64? key = none) (levels : Nat) :
    checkMapOf s (checkLevels s levels) d (.obj members) ≠ .ok () := by
  intro accepted
  obtain ⟨k', found, t, -, es, read, admits⟩ := checkMapOf_eq_ok_iff.mp accepted
  obtain rfl : k = k' := Option.some.inj (ktype.symm.trans found)
  cases read
  have text : valueOfKey k key = .str key := by
    have base : k.baseType = .integer := congrArg Kind.baseType integer
    simp only [valueOfKey, base, unread, Option.map_none, Option.getD_none]
  have checked : checkLevels s levels k (valueOfKey k key) = .ok () :=
    (admits.checked _ (List.mem_map_of_mem member)).1
  rw [text] at checked
  exact checkLevels_str_ne_ok integer levels key checked

end Validation

namespace Schema

open Expansion Validation
open Numeral (Word)

variable {s : Schema} {name : String} {d k : TypeDefinition}

/-- The object with the decimal text of an integer as its one key fares as the list of the integer
and the value, errors included, if the integer is a signed word; otherwise it is refused. -/
theorem validate_numbered (found : s.lookup? name = some d) (kind : d.kind = .mapOf)
    (ktype : d.options.ktype.bind s.lookup? = some k) (integer : k.kind = .integer) (n : Int)
    {v : Json} (verbose : expandElement s (expandLevels s s.limits.maxDepth) d v = v) :
    (Word.i64.Holds n →
        s.validate name (.obj [(toString n, v)]) = s.validate name (.arr [.int n, v])) ∧
      (s.isValid name (.obj [(toString n, v)]) = true ↔
        Word.i64.Holds n ∧ s.isValid name (.arr [.int n, v]) = true) := by
  have object : s.validate name (.obj [(toString n, v)]) =
      under name (checkMapOf s s.checkInside d (.obj [(toString n, v)])) := by
    rw [validate_of_lookup found, expandLevel_mapOf kind]
    simp only [checkLevel, kind, List.map_cons, List.map_nil, verbose]
  have list : s.validate name (.arr [.int n, v]) =
      under name (checkMapOf s s.checkInside d (.arr [.int n, v])) := by
    rw [validate_of_lookup found, expandLevel_flat kind]
    simp only [checkLevel, kind]
  have same : Word.i64.Holds n →
      s.validate name (.obj [(toString n, v)]) = s.validate name (.arr [.int n, v]) := by
    intro held
    have base : k.baseType = .integer := congrArg Kind.baseType integer
    have each : ∀ e ∈ [(n, v)], Word.i64.Holds e.1 := by simpa using held
    rw [object, list]
    have equal : checkMapOf s s.checkInside d (.obj ([(n, v)].map fun e => (toString e.1, e.2))) =
        checkMapOf s s.checkInside d (.arr ([(n, v)].flatMap fun e => [.int e.1, e.2])) :=
      checkMapOf_numbered ktype base each
    rw [List.map_singleton, List.flatMap_singleton] at equal
    rw [equal]
  refine ⟨same, ?_⟩
  by_cases held : Word.i64.Holds n
  · rw [isValid, isValid, same held, and_iff_right held]
  · rw [isValid, object, isOk_under_iff, checkInside_eq]
    have unread : Numeral.int64? (toString n) = none :=
      (Numeral.int64?_toString_eq n).trans (Word.word?_eq_none_iff.mpr held)
    exact iff_of_false (checkMapOf_ne_ok_of_key ktype integer List.mem_cons_self unread _)
      fun accepted => held accepted.1

def frame : TypeDefinition where
  name := "Frame"
  options := { format := some "u64", minv := some 1 }
  description := ""
  kind := .integer

def titles : TypeDefinition where
  name := "Titles"
  options := { ktype := some "Frame", vtype := some "String" }
  description := ""
  kind := .mapOf

def films : Schema where
  info := {}
  types := [frame, titles]
  limits := {}
  extensions := []
  fieldTypes := []
  patterns := []

/-- The greatest signed word is a key in both forms, zero fails in both alike, and the integer after
that word is a key in a list only. -/
theorem validate_numbered_titles :
    films.lookup? "Titles" = some titles ∧ titles.kind = .mapOf ∧
      titles.options.ktype.bind films.lookup? = some frame ∧ frame.kind = .integer ∧
      expandElement films (expandLevels films films.limits.maxDepth) titles (.str "End") =
        .str "End" ∧
      films.isValid "Titles" (.obj [("9223372036854775807", .str "End")]) = true ∧
      films.validate "Titles" (.obj [("0", .str "End")]) =
        films.validate "Titles" (.arr [.int 0, .str "End"]) ∧
      films.isValid "Titles" (.arr [.int (2 ^ 63), .str "End"]) = true ∧
      films.isValid "Titles" (.obj [("9223372036854775808", .str "End")]) = false := by
  have found : films.lookup? "Titles" = some titles := rfl
  have verbose : expandElement films (expandLevels films films.limits.maxDepth) titles
      (.str "End") = .str "End" := rfl
  have numbered := fun n : Int => validate_numbered found rfl rfl rfl n verbose
  have greatest := (numbered (2 ^ 63 - 1)).2.mpr ⟨by decide, by decide +kernel⟩
  have zero := (numbered 0).1 (by decide)
  have beyond := mt (numbered (2 ^ 63)).2.mp fun both => absurd both.1 (by decide)
  rw [Bool.not_eq_true] at beyond
  exact ⟨found, rfl, rfl, rfl, verbose, greatest, zero, by decide +kernel, beyond⟩

end Schema

end Jadn
