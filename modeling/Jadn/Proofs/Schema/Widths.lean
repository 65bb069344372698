import Jadn.Proofs.Validation.Descriptions

/-!
What is left of descriptions when they are truncated to a width.

A description that fits is kept. Of a longer one as many characters are kept as leave room for the
two points that follow them, which take all the room in widths of one and two, and more than there
is in a width of one.
-/

set_option autoImplicit false

namespace Jadn

/-- A text after it was truncated to a width: kept if it fits, and else cut. -/
structure Shortened (width : Nat) (before after : String) : Prop where
  fits : after.length ≤ width ∨ width = 1 ∧ after = ".."
  kept : before.length ≤ width → after = before
  cut : width < before.length → ∃ start : String, start.toList <+: before.toList ∧
    start.length = width - 2 ∧ after = start ++ ".."

theorem shortened_truncate {width : Nat} (positive : 1 ≤ width) (text : String) :
    Shortened width text (truncate width text) := by
  have given : width ≠ 0 := Nat.ne_zero_of_lt positive
  refine ⟨?_, truncate_of_le given, fun long => ?_⟩
  · by_cases short : text.length ≤ width
    · exact Or.inl (by rwa [truncate_of_le given short])
    · have long : width < text.length := by omega
      have length := length_truncate_of_lt given long
      by_cases narrow : width = 1
      · refine Or.inr ⟨narrow, String.toList_inj.mp ?_⟩
        rw [toList_truncate_of_lt given long, narrow]
        rfl
      · exact Or.inl (by omega)
  · refine ⟨String.ofList (text.toList.take (width - 2)), ?_, ?_, String.toList_inj.mp ?_⟩
    · rw [String.toList_ofList]
      exact List.take_prefix _ _
    · rw [String.length_ofList, List.length_take, String.length_toList]
      omega
    · rw [toList_truncate_of_lt given long, String.toList_append, String.toList_ofList]
      rfl

example : truncate 1 "ink" = ".." := rfl

namespace TypeDefinition

def descriptions (d : TypeDefinition) : List String :=
  d.description :: (d.items.map Item.description ++ d.fields.map Field.description)

theorem descriptions_mapDescriptions (f : String → String) (d : TypeDefinition) :
    (d.mapDescriptions f).descriptions = d.descriptions.map f := by
  unfold mapDescriptions descriptions items fields
  cases d.kind <;> simp [Kind.items, Kind.fields]

end TypeDefinition

namespace Schema

/-- Truncation honours its width, but for a width of one, in which the two points do not fit. -/
theorem Built.shortened_descriptions {s : Schema} (built : s.Built) {width : Nat}
    (positive : 1 ≤ width) :
    ∃ t, (∀ order, s.truncateDescriptions width order = .ok t) ∧
      List.Forall₂ (fun before after : TypeDefinition => after.name = before.name ∧
        List.Forall₂ (Shortened width) before.descriptions after.descriptions) s.types t.types := by
  obtain ⟨t, made, -⟩ := built.exists_truncateDescriptions width
  refine ⟨t, made, ?_⟩
  rw [(tables_of_build (made .entered)).types_eq, List.forall₂_map_right_iff]
  refine List.forall₂_same.mpr fun d _ => ⟨rfl, ?_⟩
  rw [TypeDefinition.descriptions_mapDescriptions, List.forall₂_map_right_iff]
  exact List.forall₂_same.mpr fun text _ => shortened_truncate positive text

/-- The descriptions of a palette and of its colours are too long for a width of six. -/
theorem shortened_palettes :
    palettes.Built ∧ 1 ≤ 6 ∧ ∃ t, (∀ order, palettes.truncateDescriptions 6 order = .ok t) ∧
      t.types.map TypeDefinition.descriptions = [["Colo..", "what..", "the .."], [""]] ∧
      List.Forall₂ (fun before after : TypeDefinition => after.name = before.name ∧
        List.Forall₂ (Shortened 6) before.descriptions after.descriptions)
        palettes.types t.types := by
  obtain ⟨t, made, shortened⟩ := palettes_built.shortened_descriptions (by decide : 1 ≤ 6)
  refine ⟨palettes_built, by decide, t, made, ?_, shortened⟩
  rw [(tables_of_build (made .entered)).types_eq]
  decide

end Schema

end Jadn
