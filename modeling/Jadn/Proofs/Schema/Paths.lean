import Jadn.Proofs.Schema.Lookup
import Mathlib.Data.List.Chain

/-!
The paths that lead through the fields of a definition.

A path starts at a field of the definition, goes on through fields that qualify others, and ends at
a field that does not; it enters no definition twice. An enumeration of paths lists all of them,
those of an earlier field first. The walk that lists them keeps the names it has entered, so each
of its lists is described together with the names that its paths avoid.
-/

set_option autoImplicit false

namespace Jadn.Extensions

/-- A field goes on into a definition: it qualifies the fields of that definition, which is declared
as the type of the field. -/
structure GoesOn (types : List TypeDefinition) (f : Field) (d : TypeDefinition) : Prop where
  qualifies : f.options.dir = true
  declared : declared? types f.typeRef = some d
  hasFields : d.hasFields = true
  other : d.isEnumeration = false

theorem goesOn_iff {types : List TypeDefinition} {f : Field} {d : TypeDefinition} :
    GoesOn types f d ↔ nested? types f = some d := by
  rw [nested?, Option.filter_eq_some_iff]
  constructor
  · rintro ⟨qualifies, declared, hasFields, other⟩
    exact ⟨declared, by simp [qualifies, hasFields, other]⟩
  · rintro ⟨declared, nested⟩
    simp only [Bool.and_eq_true, Bool.not_eq_true'] at nested
    exact ⟨nested.1.1, declared, nested.1.2, nested.2⟩

structure Step where
  owner : TypeDefinition
  field : Field

/-- A path from a definition through fields that qualify the next one to a field that does not. -/
structure IsPath (types : List TypeDefinition) (source : TypeDefinition) (path : List Step) :
    Prop where
  starts : path.head?.map Step.owner = some source
  fields : ∀ step ∈ path, step.field ∈ step.owner.fields
  goesOn : path.IsChain fun step next => GoesOn types step.field next.owner
  distinct : (path.map fun step => step.owner.name).Nodup
  ends : ∀ step, path.getLast? = some step → ∀ d, ¬ GoesOn types step.field d

def pathText (path : List Step) : String :=
  String.intercalate "/" (path.map fun step => step.field.name)

def pathDescription (path : List Step) : String :=
  (path.getLast?.map fun step => step.field.description).getD ""

/-- Where two paths part, the first one takes a field that is declared earlier. -/
def Before (p q : List Step) : Prop :=
  ∃ shared d f g p' q', p = shared ++ ⟨d, f⟩ :: p' ∧ q = shared ++ ⟨d, g⟩ :: q' ∧
    [f, g].Sublist d.fields

section Shapes

variable {types : List TypeDefinition} {d : TypeDefinition} {f : Field} {path : List Step}

theorem IsPath.ne_nil (h : IsPath types d path) : path ≠ [] := by
  rintro rfl
  simpa using h.starts

theorem IsPath.owner_mem (h : IsPath types d path) (hd : d ∈ types) :
    ∀ step ∈ path, step.owner ∈ types := by
  refine h.goesOn.induction (fun step => step.owner ∈ types) path ?_ ?_
  · intro step next goesOn _
    exact (mem_of_declared? goesOn.declared).1
  · intro nonempty
    have first := h.starts
    rw [List.head?_eq_some_head nonempty, Option.map_some, Option.some.injEq] at first
    rwa [first]

theorem isPath_singleton :
    IsPath types d [⟨d, f⟩] ↔ f ∈ d.fields ∧ nested? types f = none := by
  have last : nested? types f = none ↔ ∀ e, ¬ GoesOn types f e := by
    simp [goesOn_iff, Option.eq_none_iff_forall_ne_some]
  rw [last]
  constructor
  · exact fun h => ⟨h.fields _ List.mem_cons_self, h.ends _ rfl⟩
  · rintro ⟨member, ends⟩
    exact ⟨rfl, by simpa using member, by simp, by simp, by simpa using ends⟩

theorem isPath_cons (nonempty : path ≠ []) :
    IsPath types d (⟨d, f⟩ :: path) ↔ f ∈ d.fields ∧ ∃ e, nested? types f = some e ∧
      IsPath types e path ∧ ∀ step ∈ path, step.owner.name ≠ d.name := by
  obtain ⟨next, rest, rfl⟩ := List.exists_cons_of_ne_nil nonempty
  constructor
  · rintro ⟨-, fields, goesOn, distinct, ends⟩
    rw [List.isChain_cons_cons] at goesOn
    rw [List.map_cons, List.nodup_cons] at distinct
    refine ⟨fields _ List.mem_cons_self, next.owner, goesOn_iff.mp goesOn.1, ?_, ?_⟩
    · exact ⟨rfl, fun step later => fields step (List.mem_cons_of_mem _ later), goesOn.2,
        distinct.2, by simpa using ends⟩
    · intro step later same
      exact distinct.1 (List.mem_map.mpr ⟨step, later, same⟩)
  · rintro ⟨member, e, nested, ⟨starts, fields, goesOn, distinct, ends⟩, apart⟩
    obtain rfl : next.owner = e := by simpa using starts
    refine ⟨rfl, List.forall_mem_cons.mpr ⟨member, fields⟩,
      List.isChain_cons_cons.mpr ⟨goesOn_iff.mpr nested, goesOn⟩, ?_, by simpa using ends⟩
    rw [List.map_cons, List.nodup_cons]
    refine ⟨fun repeated => ?_, distinct⟩
    obtain ⟨step, later, same⟩ := List.mem_map.mp repeated
    exact apart step later same

theorem pathText_cons (nonempty : path ≠ []) :
    pathText (⟨d, f⟩ :: path) = f.name ++ "/" ++ pathText path := by
  rw [pathText, List.map_cons, String.intercalate_cons_of_ne_nil (by simpa using nonempty)]
  rfl

theorem pathDescription_cons (nonempty : path ≠ []) :
    pathDescription (⟨d, f⟩ :: path) = pathDescription path := by
  rw [pathDescription, pathDescription, List.getLast?_cons, List.getLast?_eq_some_getLast nonempty]
  rfl

end Shapes

def through (types : List TypeDefinition) (d : TypeDefinition) (f : Field)
    (walk : TypeDefinition → List (List Step)) : List (List Step) :=
  match nested? types f with
  | some inner => (walk inner).map (⟨d, f⟩ :: ·)
  | none => [[⟨d, f⟩]]

/-- The paths that the walk lists, with the definitions that they enter. -/
def walks (types : List TypeDefinition) :
    Nat → List String → TypeDefinition → List (List Step)
  | 0, _, _ => []
  | fuel + 1, entered, d =>
    if d.name ∈ entered then []
    else d.fields.flatMap fun f => through types d f (walks types fuel (d.name :: entered))

section Walks

variable {types : List TypeDefinition} {fuel : Nat} {entered : List String} {d : TypeDefinition}
  {path : List Step}

theorem mem_through_iff {f : Field} {walk : TypeDefinition → List (List Step)} :
    path ∈ through types d f walk ↔ ∃ rest, path = ⟨d, f⟩ :: rest ∧
      (rest = [] ∧ nested? types f = none ∨
        ∃ inner, nested? types f = some inner ∧ rest ∈ walk inner) := by
  unfold through
  split
  · next inner nested => simp [nested, eq_comm, and_comm]
  · next final => simp [final]

/-- The walk lists the paths that enter none of the given names and fit its fuel. -/
theorem mem_walks_iff : path ∈ walks types fuel entered d ↔
    IsPath types d path ∧ (∀ step ∈ path, step.owner.name ∉ entered) ∧ path.length ≤ fuel := by
  induction fuel generalizing entered d path with
  | zero =>
    rw [walks, List.mem_nil_iff, false_iff]
    rintro ⟨isPath, -, short⟩
    exact isPath.ne_nil (List.length_eq_zero_iff.mp (Nat.le_zero.mp short))
  | succ fuel ih =>
    rw [walks]
    split
    · next present =>
      rw [List.mem_nil_iff, false_iff]
      rintro ⟨isPath, avoids, -⟩
      obtain ⟨step, first, rfl⟩ := Option.map_eq_some_iff.mp isPath.starts
      exact avoids step (List.mem_of_mem_head? first) present
    · next fresh =>
      simp only [List.mem_flatMap, mem_through_iff, ih]
      constructor
      · rintro ⟨f, hf, rest, rfl, ⟨rfl, final⟩ | ⟨inner, nested, isPath, avoids, short⟩⟩
        · exact ⟨isPath_singleton.mpr ⟨hf, final⟩, by simpa using fresh, by simp⟩
        · refine ⟨(isPath_cons isPath.ne_nil).mpr ⟨hf, inner, nested, isPath, ?_⟩, ?_, ?_⟩
          · exact fun step later same => avoids step later (by simp [same])
          · refine List.forall_mem_cons.mpr ⟨fresh, fun step later before => ?_⟩
            exact avoids step later (List.mem_cons_of_mem _ before)
          · exact Nat.succ_le_succ short
      · rintro ⟨isPath, avoids, short⟩
        obtain ⟨⟨owner, f⟩, rest, rfl⟩ := List.exists_cons_of_ne_nil isPath.ne_nil
        obtain rfl : owner = d := by simpa using isPath.starts
        by_cases nonempty : rest = []
        · subst nonempty
          obtain ⟨hf, final⟩ := isPath_singleton.mp isPath
          exact ⟨f, hf, [], rfl, Or.inl ⟨rfl, final⟩⟩
        · obtain ⟨hf, inner, nested, further, apart⟩ := (isPath_cons nonempty).mp isPath
          refine ⟨f, hf, rest, rfl, Or.inr ⟨inner, nested, further, fun step later => ?_, ?_⟩⟩
          · rw [List.mem_cons, not_or]
            exact ⟨apart step later, avoids step (List.mem_cons_of_mem _ later)⟩
          · exact Nat.le_of_succ_le_succ short

theorem paths_eq_walks : paths types fuel entered d =
    (walks types fuel entered d).map fun path => (pathText path, pathDescription path) := by
  induction fuel generalizing entered d with
  | zero => rfl
  | succ fuel ih =>
    rw [paths, walks]
    split
    · rfl
    · rw [List.map_flatMap]
      refine List.flatMap_congr fun f _ => ?_
      unfold through
      cases nested? types f with
      | some inner =>
        simp only [ih, List.map_map]
        refine List.map_congr_left fun path listed => ?_
        have nonempty := (mem_walks_iff.mp listed).1.ne_nil
        simp [pathText_cons nonempty, pathDescription_cons nonempty]
      | none => simp [pathText, pathDescription]

theorem Before.cons {p q : List Step} (h : Before p q) (step : Step) :
    Before (step :: p) (step :: q) := by
  obtain ⟨shared, d, f, g, p', q', rfl, rfl, earlier⟩ := h
  exact ⟨step :: shared, d, f, g, p', q', rfl, rfl, earlier⟩

/-- The paths of a field come before those of later fields. -/
theorem walks_pairwise : (walks types fuel entered d).Pairwise Before := by
  induction fuel generalizing entered d with
  | zero => exact .nil
  | succ fuel ih =>
    rw [walks]
    split
    · exact .nil
    · refine List.pairwise_flatMap.mpr ⟨fun f _ => ?_, ?_⟩
      · unfold through
        split
        · exact ih.map _ fun p q before => before.cons _
        · exact List.pairwise_singleton _ _
      · refine List.pairwise_iff_forall_sublist.mpr fun {f g} earlier p hp q hq => ?_
        obtain ⟨p', rfl, -⟩ := mem_through_iff.mp hp
        obtain ⟨q', rfl, -⟩ := mem_through_iff.mp hq
        exact ⟨[], d, f, g, p', q', rfl, rfl, earlier⟩

theorem not_before_self (formed : ∀ step ∈ path, step.owner.fields.Nodup) : ¬ Before path path := by
  rintro ⟨shared, d, f, g, p, q, first, second, earlier⟩
  have same := List.append_cancel_left (first.symm.trans second)
  cases same
  have nodup := formed ⟨d, f⟩ (by simp [first])
  exact absurd (nodup.sublist earlier) (by simp)

/-- A path enters no more definitions than are declared. -/
theorem IsPath.length_le (h : IsPath types d path) (hd : d ∈ types) :
    path.length ≤ types.length := by
  have fits : (path.map fun step => step.owner.name).length ≤ (types.map (·.name)).length := by
    refine h.distinct.length_le_of_subset fun name entered => ?_
    obtain ⟨step, member, rfl⟩ := List.mem_map.mp entered
    exact List.mem_map_of_mem (h.owner_mem hd step member)
  simpa using fits

end Walks

end Jadn.Extensions

namespace Jadn.Schema

open Extensions

/-- The items of an enumeration of paths are numbered from one and list every path below the
definition once, those of an earlier field first. However far the walk may go beyond the number of
definitions, it lists no more. -/
theorem Built.pathItems_eq_listed {s : Schema} (built : s.Built) {d : TypeDefinition}
    (hd : d ∈ s.types) :
    ∃ listed : List (List Step),
      pathItems s.types d = (listed.zipIdx.map fun (path, i) =>
        ⟨Int64.ofNat (i + 1), pathText path, pathDescription path⟩) ∧
      (∀ path, path ∈ listed ↔ IsPath s.types d path) ∧ listed.Pairwise Before ∧ listed.Nodup ∧
      ∀ fuel, s.types.length < fuel →
        paths s.types fuel [] d = listed.map fun path => (pathText path, pathDescription path) := by
  have members : ∀ path, path ∈ walks s.types (s.types.length + 1) [] d ↔
      IsPath s.types d path := by
    intro path
    rw [mem_walks_iff]
    exact ⟨And.left, fun isPath => ⟨isPath, by simp, (isPath.length_le hd).trans (by simp)⟩⟩
  have ordered : (walks s.types (s.types.length + 1) [] d).Pairwise Before := walks_pairwise
  refine ⟨walks s.types (s.types.length + 1) [] d, ?_, members, ordered, ?_, ?_⟩
  · rw [pathItems, paths_eq_walks, List.zipIdx_map, List.map_map]
    rfl
  · refine ordered.imp_of_mem fun {p q} hp _ before same => ?_
    subst same
    refine not_before_self (fun step member => ?_) before
    have declared := ((members p).mp hp).owner_mem hd step member
    exact .of_map _ (built.wellFormed _ declared).fieldNames
  · intro fuel enough
    obtain ⟨more, rfl⟩ := Nat.exists_eq_add_of_lt enough
    rw [← paths_eq_walks, Nat.add_right_comm]
    exact paths_add List.nodup_nil (by simp) hd (by simp) more

def house : Schema where
  info := { package := "house" }
  types := [
    { name := "House", options := {}, description := "", kind := .record [
      { Field.new 1 "front" "Room" with options := { dir := true } },
      { Field.new 2 "back" "Room" with options := { dir := true } }] },
    { name := "Room", options := {}, description := "", kind := .record [
      .new 1 "door" "String",
      { Field.new 2 "of" "House" with options := { dir := true } }] }]
  limits := {}
  extensions := []
  fieldTypes := []
  patterns := []

/-- The definition of rooms is entered for each of them, and the way back to the house is not
taken. -/
theorem pathItems_eq_listed_house :
    house.Built ∧ pathItems house.types house.types[0] =
        [⟨1, "front/door", ""⟩, ⟨2, "back/door", ""⟩] ∧
      ∃ listed : List (List Step), listed.length = 2 ∧
        (∀ path, path ∈ listed ↔ IsPath house.types house.types[0] path) ∧
          listed.Pairwise Before ∧ listed.Nodup := by
  have built : house.Built := ⟨by decide, .entered, rfl⟩
  obtain ⟨listed, items, members, ordered, distinct, -⟩ :=
    built.pathItems_eq_listed (List.getElem_mem (by decide : 0 < house.types.length))
  have computed : pathItems house.types house.types[0] =
      [⟨1, "front/door", ""⟩, ⟨2, "back/door", ""⟩] := by decide +kernel
  have number := congrArg List.length (items.symm.trans computed)
  exact ⟨built, computed, listed, by simpa using number, members, ordered, distinct⟩

end Jadn.Schema
