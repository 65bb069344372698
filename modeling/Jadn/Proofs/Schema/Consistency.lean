import Jadn.Proofs.Schema.Building
import Jadn.Schema.Consistency

/-!
The check of references beside the look-up that validation makes.

Both agree on names. A marked reference is looked up if the type that it names is declared, and
then it has an enumeration, since the schema would not have been built otherwise. The check drops
markers from the references in options, and there it lets pass what names a base type; it keeps
those of field types, and reports these.
-/

set_option autoImplicit false

namespace Jadn

namespace TypeDefinition

def partReferences (d : TypeDefinition) : List String :=
  (d.options.vtype.toList ++ d.options.ktype.toList) ++
    d.fields.flatMap fun f => f.options.vtype.toList ++ f.options.ktype.toList

def itemSources (d : TypeDefinition) : List String :=
  (d.options.enumeration.toList ++ d.options.pointer.toList) ++
    d.fields.flatMap fun f => f.options.enumeration.toList ++ f.options.pointer.toList

variable {d : TypeDefinition} {x : String}

theorem mem_lookedUp_iff :
    x ∈ d.lookedUp ↔ x ∈ d.partReferences ∨ ∃ f ∈ d.fields, x = f.typeRef := by
  simp only [lookedUp, partReferences, List.mem_append, List.mem_flatMap, List.mem_cons]
  grind

/-- Markers are dropped from the references in options and kept in front of field types. -/
theorem mem_references_iff :
    x ∈ d.references ↔ (∃ y ∈ d.partReferences ++ d.itemSources, x = (splitMarker y).2) ∨
      ∃ f ∈ d.fields, x = f.typeRef := by
  simp only [references, partReferences, itemSources, Options.references, Field.references,
    List.mem_append, List.mem_flatMap, List.mem_cons, List.mem_map]
  grind

end TypeDefinition

namespace Schema

variable {s : Schema}

theorem Built.lookup?_isSome_iff (built : s.Built) {x : String}
    (stands : x ∈ s.types.flatMap (·.lookedUp)) :
    (s.lookup? x).isSome ↔
      (s.get? x).isSome ∨ (s.get? (splitMarker x).2).isSome ∨ (builtin? x).isSome :=
  resolve?_isSome_iff_or built.tables.distinct built.tables.extensions stands

theorem mem_danglingReferences_iff {r : String} :
    r ∈ s.danglingReferences ↔
      (∃ d ∈ s.types, r ∈ d.references) ∧ s.isKnown r = false := by
  have all : ∀ (rest found : List String),
      r ∈ rest.foldl (fun unknown r =>
        if s.isKnown r || unknown.contains r then unknown else unknown ++ [r]) found ↔
          r ∈ found ∨ r ∈ rest ∧ s.isKnown r = false := by
    intro rest
    induction rest with
    | nil => simp
    | cons first rest ih =>
      intro found
      rw [List.foldl_cons, ih]
      by_cases same : r = first
      · subst same
        by_cases listed : r ∈ found <;> by_cases known : s.isKnown r = true <;>
          simp [listed, known]
      · split <;> simp [same]
  rw [danglingReferences, all, List.mem_flatMap]
  simp

theorem isKnown_of_not_mem {r : String} (plain : ':' ∉ r.toList) :
    s.isKnown r = ((s.get? r).isSome || (builtin? r).isSome) := by
  rw [isKnown, splitNamespace_of_not_mem plain]

/-- A marked reference to a base type: nothing can be derived from it, and no type is declared in
its place. -/
structure Underivable (s : Schema) (x : String) : Prop where
  marked : (splitMarker x).1 = true
  base : (builtin? (splitMarker x).2).isSome
  source : s.get? (splitMarker x).2 = none
  undeclared : s.get? x = none

/-- What is reported although it is looked up: field types with their markers, and the names
behind the markers of keys and values that are declared with the marker. -/
inductive Misreported (s : Schema) : String → Prop where
  | field {d : TypeDefinition} {f : Field} (declared : d ∈ s.types) (listed : f ∈ d.fields)
      (marked : (splitMarker f.typeRef).1 = true) (undeclared : s.get? f.typeRef = none) :
      Misreported s f.typeRef
  | part {d : TypeDefinition} {x : String} (declared : d ∈ s.types) (listed : x ∈ d.partReferences)
      (marked : (splitMarker x).1 = true) (own : (s.get? x).isSome)
      (unknown : s.isKnown (splitMarker x).2 = false) : Misreported s (splitMarker x).2

theorem Underivable.not_found {x : String} (h : s.Underivable x) :
    ¬ ((s.get? x).isSome ∨ (s.get? (splitMarker x).2).isSome ∨ (builtin? x).isSome) := by
  rw [h.undeclared, h.source, builtin?_of_marked h.marked]
  simp

theorem found_of_source {x : String}
    (source : (s.get? (splitMarker x).2).isSome ∨ (builtin? (splitMarker x).2).isSome)
    (derivable : ¬ s.Underivable x) :
    (s.get? x).isSome ∨ (s.get? (splitMarker x).2).isSome ∨ (builtin? x).isSome := by
  rcases source with declared | base
  · exact Or.inr (Or.inl declared)
  · cases marked : (splitMarker x).1 with
    | false => exact Or.inr (Or.inr (splitMarker_of_unmarked marked ▸ base))
    | true =>
      by_contra missing
      simp only [not_or, Option.not_isSome_iff_eq_none] at missing
      exact derivable ⟨marked, base, missing.2.1, missing.1⟩

/-- What is looked up and yet not known by name behind its marker is declared with the marker. -/
theorem declared_of_unknown {x : String}
    (found : (s.get? x).isSome ∨ (s.get? (splitMarker x).2).isSome ∨ (builtin? x).isSome)
    (undeclared : s.get? (splitMarker x).2 = none) (base : builtin? (splitMarker x).2 = none) :
    (splitMarker x).1 = true ∧ (s.get? x).isSome := by
  cases marked : (splitMarker x).1 with
  | false =>
    rw [splitMarker_of_unmarked marked] at undeclared base found
    simp [undeclared, base] at found
  | true =>
    rw [undeclared, builtin?_of_marked marked] at found
    simpa using found

theorem marked_of_undeclared {x : String}
    (found : (s.get? x).isSome ∨ (s.get? (splitMarker x).2).isSome ∨ (builtin? x).isSome)
    (undeclared : s.get? x = none) (base : builtin? x = none) : (splitMarker x).1 = true := by
  cases marked : (splitMarker x).1 with
  | true => rfl
  | false =>
    rw [splitMarker_of_unmarked marked, undeclared, base] at found
    simp at found

section Unqualified

variable (unqualified : ∀ d ∈ s.types, ∀ r ∈ d.references, Name.isQualified r = false)
include unqualified

theorem isKnown_of_mem_references {d : TypeDefinition} (hd : d ∈ s.types) {r : String}
    (hr : r ∈ d.references) : s.isKnown r = ((s.get? r).isSome || (builtin? r).isSome) := by
  refine isKnown_of_not_mem ?_
  simpa [Name.isQualified] using unqualified d hd r hr

theorem known_of_danglingReferences_eq_nil (none : s.danglingReferences = []) {d : TypeDefinition}
    (hd : d ∈ s.types) {r : String} (hr : r ∈ d.references) :
    (s.get? r).isSome ∨ (builtin? r).isSome := by
  have notListed : r ∉ s.danglingReferences := by simp [none]
  rw [mem_danglingReferences_iff, isKnown_of_mem_references unqualified hd hr] at notListed
  by_contra unknown
  refine notListed ⟨⟨d, hd, hr⟩, ?_⟩
  simpa using unknown

theorem Built.lookup?_of_danglingReferences_eq_nil (built : s.Built)
    (none : s.danglingReferences = []) {x : String} (stands : x ∈ s.types.flatMap (·.lookedUp)) :
    (s.lookup? x).isSome ↔ ¬ s.Underivable x := by
  rw [built.lookup?_isSome_iff stands]
  refine ⟨fun found underivable => underivable.not_found found, fun derivable => ?_⟩
  obtain ⟨d, hd, looked⟩ := List.mem_flatMap.mp stands
  rcases TypeDefinition.mem_lookedUp_iff.mp looked with part | ⟨f, hf, rfl⟩
  · have listed := TypeDefinition.mem_references_iff.mpr
      (Or.inl ⟨x, List.mem_append_left _ part, rfl⟩)
    exact found_of_source (known_of_danglingReferences_eq_nil unqualified none hd listed) derivable
  · have listed := TypeDefinition.mem_references_iff.mpr (Or.inr ⟨f, hf, rfl⟩)
    rcases known_of_danglingReferences_eq_nil unqualified none hd listed with declared | base
    · exact Or.inl declared
    · exact Or.inr (Or.inr base)

/-- Marked field types are reported even if what they name is declared. -/
theorem Misreported.mem_danglingReferences {r : String} (misreported : s.Misreported r) :
    r ∈ s.danglingReferences := by
  rw [mem_danglingReferences_iff]
  cases misreported with
  | @field d f hd hf marked undeclared =>
    have listed := TypeDefinition.mem_references_iff.mpr (Or.inr ⟨f, hf, rfl⟩)
    refine ⟨⟨d, hd, listed⟩, ?_⟩
    rw [isKnown_of_mem_references unqualified hd listed, undeclared, builtin?_of_marked marked]
    rfl
  | @part d x hd part _ _ unknown =>
    have listed := TypeDefinition.mem_references_iff.mpr
      (Or.inl ⟨x, List.mem_append_left _ part, rfl⟩)
    exact ⟨⟨d, hd, listed⟩, unknown⟩

theorem Built.misreported_of_mem (built : s.Built)
    (defined : ∀ x ∈ s.types.flatMap (·.lookedUp), (s.lookup? x).isSome)
    (sources : ∀ d ∈ s.types, ∀ x ∈ d.itemSources, (s.get? (splitMarker x).2).isSome)
    {r : String} (reported : r ∈ s.danglingReferences) : s.Misreported r := by
  have found : ∀ d ∈ s.types, ∀ x ∈ d.lookedUp,
      (s.get? x).isSome ∨ (s.get? (splitMarker x).2).isSome ∨ (builtin? x).isSome := by
    intro d hd x hx
    have stands : x ∈ s.types.flatMap (·.lookedUp) := List.mem_flatMap.mpr ⟨d, hd, hx⟩
    exact (built.lookup?_isSome_iff stands).mp (defined x stands)
  obtain ⟨⟨d, hd, hr⟩, unknown⟩ := mem_danglingReferences_iff.mp reported
  have parts := isKnown_of_mem_references unqualified hd hr ▸ unknown
  simp only [Bool.or_eq_false_iff, Option.isSome_eq_false_iff, Option.isNone_iff_eq_none] at parts
  obtain ⟨undeclared, base⟩ := parts
  rcases TypeDefinition.mem_references_iff.mp hr with ⟨x, hx, rfl⟩ | ⟨f, hf, rfl⟩
  · rcases List.mem_append.mp hx with part | source
    · have looked := TypeDefinition.mem_lookedUp_iff.mpr (Or.inl part)
      obtain ⟨marked, own⟩ := declared_of_unknown (found d hd x looked) undeclared base
      exact .part hd part marked own unknown
    · have declared := sources d hd x source
      rw [undeclared] at declared
      cases declared
  · have looked := TypeDefinition.mem_lookedUp_iff.mpr (Or.inr ⟨f, hf, rfl⟩)
    exact .field hd hf (marked_of_undeclared (found d hd _ looked) undeclared base) undeclared

end Unqualified

/-- Where the check of references finds nothing, all that validation looks up is found, but for
marked base types as types of keys and values. Where all is found and the types that
enumerations take their items from are declared, the check reports nothing but marked field
types and, behind markers, the names of keys and values that are declared with the marker. -/
theorem Built.danglingReferences_agree (built : s.Built)
    (unqualified : ∀ d ∈ s.types, ∀ r ∈ d.references, Name.isQualified r = false) :
    (s.danglingReferences = [] →
      ∀ x ∈ s.types.flatMap (·.lookedUp), (s.lookup? x).isSome ↔ ¬ s.Underivable x) ∧
    ((∀ x ∈ s.types.flatMap (·.lookedUp), (s.lookup? x).isSome) →
      (∀ d ∈ s.types, ∀ x ∈ d.itemSources, (s.get? (splitMarker x).2).isSome) →
        ∀ r, r ∈ s.danglingReferences ↔ s.Misreported r) := by
  constructor
  · intro none x stands
    exact built.lookup?_of_danglingReferences_eq_nil unqualified none stands
  · intro defined sources r
    exact ⟨built.misreported_of_mem unqualified defined sources,
      fun misreported => misreported.mem_danglingReferences unqualified⟩

def switches : Schema where
  info := {}
  types := [
    { name := "Switch"
      options := {}
      description := ""
      kind := .record [.new 1 "kind" "#Target"] },
    { name := "Target"
      options := {}
      description := ""
      kind := .choice [.new 1 "file" "String"] }]
  limits := {}
  extensions := [("#Target",
    { name := "Enum-Target"
      options := {}
      description := "Derived Enumerated from Target"
      kind := .enumerated [⟨1, "file", ""⟩] })]
  fieldTypes := []
  patterns := []

theorem switches_built : switches.Built := ⟨by decide, .entered, rfl⟩

def letters : Schema where
  info := {}
  types := [
    { name := "Letters"
      options := { vtype := some "#String" }
      description := ""
      kind := .arrayOf }]
  limits := {}
  extensions := []
  fieldTypes := []
  patterns := []

theorem letters_built : letters.Built := ⟨by decide, .entered, rfl⟩

/-- The field type is reported although it is looked up, and the value type is not reported
although it is not. -/
theorem danglingReferences_switches :
    (switches.Built ∧ (switches.lookup? "#Target").isSome ∧
      "#Target" ∈ switches.danglingReferences) ∧
    letters.Built ∧ letters.danglingReferences = [] ∧ (letters.lookup? "#String").isSome = false := by
  have reported := (switches_built.danglingReferences_agree (by decide)).2 (by decide) (by decide)
  have field : switches.Misreported "#Target" :=
    .field (f := .new 1 "kind" "#Target") List.mem_cons_self List.mem_cons_self (by decide) rfl
  have none : letters.danglingReferences = [] := by decide
  have missed := (letters_built.danglingReferences_agree (by decide)).1 none "#String" (by decide)
  have underivable : letters.Underivable "#String" := by
    constructor <;> decide
  refine ⟨⟨switches_built, rfl, (reported "#Target").mpr field⟩, letters_built, none, ?_⟩
  exact Bool.eq_false_iff.mpr fun found => missed.mp found underivable

end Schema

end Jadn
