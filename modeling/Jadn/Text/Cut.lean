/-!
Cutting text at a separator.
-/

namespace Jadn.Text

/-- The parts before and after the first separator. -/
def cutList? (separator : Char) : List Char → Option (List Char × List Char)
  | [] => none
  | c :: cs =>
    if c = separator then some ([], cs)
    else (cutList? separator cs).map fun (before, after) => (c :: before, after)

def cut? (separator : Char) (text : String) : Option (String × String) :=
  (cutList? separator text.toList).map fun (before, after) =>
    (String.ofList before, String.ofList after)

/-- The parts between separators, one more than there are separators. -/
def splitList (separator : Char) : List Char → List (List Char)
  | [] => [[]]
  | c :: cs =>
    if c = separator then [] :: splitList separator cs
    else match splitList separator cs with
      | part :: parts => (c :: part) :: parts
      | [] => [[c]]

theorem cutList?_eq_some {separator : Char} {cs before after : List Char}
    (h : cutList? separator cs = some (before, after)) :
    cs = before ++ separator :: after ∧ separator ∉ before := by
  induction cs generalizing before with
  | nil => simp [cutList?] at h
  | cons c cs ih =>
    by_cases hc : c = separator
    · simp [cutList?, hc] at h
      obtain ⟨rfl, rfl⟩ := h
      simp [hc]
    · simp only [cutList?, hc, if_false, Option.map_eq_some_iff] at h
      obtain ⟨⟨b, a⟩, hb, he⟩ := h
      simp only [Prod.mk.injEq] at he
      obtain ⟨rfl, rfl⟩ := he
      obtain ⟨h1, h2⟩ := ih hb
      exact ⟨by simp [h1], by simp [Ne.symm hc, h2]⟩

theorem cutList?_eq_none_iff {separator : Char} {cs : List Char} :
    cutList? separator cs = none ↔ separator ∉ cs := by
  induction cs with
  | nil => simp [cutList?]
  | cons c cs ih =>
    by_cases hc : c = separator
    · simp [cutList?, hc]
    · simp [cutList?, hc, ih, Ne.symm hc]

end Jadn.Text
