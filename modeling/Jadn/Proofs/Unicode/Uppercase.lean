import Jadn.Unicode.Uppercase
import Mathlib.Data.List.Forall2

/-!
Capitalizing a text adds no separator of namespaces and no marker of derivation: those are
their own upper case, and no other character has them in its upper case.
-/

set_option autoImplicit false

namespace Jadn.Unicode

section Tables

theorem decode_join {parts : List String} {texts : List (List Char)}
    (h : List.Forall₂ (fun s l => s = String.ofList l) parts texts) :
    decode (String.join parts) = decodeFrom 0 1 texts.flatten := by
  have joined : (String.join parts).toList = texts.flatten := by
    induction h with
    | nil => rfl
    | cons head tail ih => simp_all [String.join_cons]
  rw [decode, joined]

/-- What is decoded from the characters of its parts holds of a table. -/
theorem forall_decode_join {parts : List String} {P : List Nat → Prop}
    (h : ∃ texts, List.Forall₂ (fun s l => s = String.ofList l) parts texts ∧
      P (decodeFrom 0 1 texts.flatten)) : P (decode (String.join parts)) := by
  obtain ⟨texts, same, h⟩ := h
  rwa [decode_join same]

def isPlain (text : List Char) : Bool := !text.isEmpty && text.all fun c => c != '#' && c != ':'

theorem uppercaseForms_isPlain : (uppercaseForms.all fun e => isPlain e.2.2) = true := by
  apply forall_decode_join (P := fun numbers =>
    ((entriesFrom numbers.length 0 (fun n => (n, true)) numbers).all fun e => isPlain e.2.2) = true)
  apply Exists.intro
  apply And.intro
  · dsimp only
    repeat (apply List.Forall₂.cons; exact rfl)
    exact .nil
  · decide +kernel

end Tables

/-- The upper case of a character is the character itself or brings in neither of the two. -/
theorem uppercase_cases (c : Char) : uppercase c = [c] ∨ isPlain (uppercase c) = true := by
  unfold uppercase
  split
  · next ascii =>
    have small : ∀ n : Fin 128, [(Char.ofNat n).toUpper] = [Char.ofNat n] ∨
        isPlain [(Char.ofNat n).toUpper] = true := by decide
    have := small ⟨c.toNat, ascii⟩
    rwa [Char.ofNat_toNat] at this
  · split
    · next mark text found =>
      obtain ⟨before, after, same, -⟩ := List.lookup_eq_some_iff.mp found
      have listed : (c.toNat, mark, text) ∈ uppercaseForms := by simp [same]
      exact Or.inr (List.all_eq_true.mp uppercaseForms_isPlain _ listed)
    · exact Or.inl rfl

theorem not_mem_uppercase {c marker : Char} (special : marker = '#' ∨ marker = ':')
    (other : c ≠ marker) : marker ∉ uppercase c := by
  rcases uppercase_cases c with same | plain
  · simpa [same] using other.symm
  · intro member
    rw [isPlain, Bool.and_eq_true, List.all_eq_true] at plain
    have apart := plain.2 marker member
    rcases special with rfl | rfl <;> simp at apart

theorem not_mem_capitalize {text : String} (h : ':' ∉ text.toList) :
    ':' ∉ (capitalize text).toList := by
  unfold capitalize
  split
  · simp
  · next c cs same =>
    rw [same, List.mem_cons, not_or] at h
    have first := not_mem_uppercase (Or.inr rfl) (Ne.symm h.1)
    simp [first, h.2]

theorem head?_capitalize_ne {text : String} (h : text.toList.head? ≠ some '#') :
    (capitalize text).toList.head? ≠ some '#' := by
  unfold capitalize
  split
  · simp
  · next c cs same =>
    have other : c ≠ '#' := by simpa [same] using h
    have first := not_mem_uppercase (Or.inl rfl) other
    rcases uppercase_cases c with upper | plain
    · simpa [upper] using other
    · cases upper : uppercase c with
      | nil => simp [upper, isPlain] at plain
      | cons d ds =>
        have : d ≠ '#' := by
          rintro rfl
          exact first (by simp [upper])
        simpa using this

end Jadn.Unicode
