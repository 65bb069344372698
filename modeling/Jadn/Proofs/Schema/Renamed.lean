import Jadn.Proofs.Schema.Building
import Jadn.Proofs.Schema.Renaming

/-!
Schemas whose types are given new names.

If no two names get the same new one, base types keep theirs, and no new name looks like a
marked reference or goes to a declared type and is that of a base type, then the renamed
definitions build and accept what they accepted before.
-/

set_option autoImplicit false

namespace Jadn

open Validation (SameBounds)

def TypeDefinition.renamedBy (g : String → String) (d : TypeDefinition) : TypeDefinition :=
  (d.mapReferences (m := Id) g).renamed (g d.name)

def Info.renamedBy (g : String → String) (i : Info) : Info :=
  { i with exports := i.exports.map g }

/-- New names for types, one to one, that are told from base types and marked references. -/
structure Renames (g : String → String) (types : List TypeDefinition) : Prop where
  injective : Function.Injective g
  base : ∀ b : BaseType, g b.name = b.name
  other : ∀ d ∈ types, BaseType.ofName? (g d.name) = none
  unmarked : ∀ x, Unmarked (g x)

section Renamed

variable {g : String → String} {types : List TypeDefinition}

theorem TypeDefinition.renamedBy_eq (d : TypeDefinition) :
    d.renamedBy g = (d.replaced g).renamed (g d.name) := by
  rw [renamedBy, mapReferences_id]

theorem map_name_renamedBy :
    (types.map (TypeDefinition.renamedBy g)).map (·.name) = (types.map (·.name)).map g := by
  simp only [List.map_map]
  exact List.map_congr_left fun d _ => congrArg TypeDefinition.name d.renamedBy_eq

theorem TypeDefinition.lookedUp_renamedBy (d : TypeDefinition) :
    (d.renamedBy g).lookedUp = d.lookedUp.map (remark g) := by
  rw [d.renamedBy_eq]
  exact d.lookedUp_replaced

theorem TypeDefinition.fields_renamedBy (d : TypeDefinition) :
    (d.renamedBy g).fields = d.fields.map (Field.replaced g) := by
  rw [d.renamedBy_eq]
  exact d.fields_replaced

namespace Renames

variable (renames : Renames g types)
include renames

theorem alike (d : TypeDefinition) : d.Alike (fun x y => y = g x) (d.renamedBy g) := by
  have alike := d.alike_replaced (g := g) fun x _ => renames.unmarked x
  rw [d.renamedBy_eq]
  exact ⟨alike.options, alike.kind⟩

theorem unmarked_renamedBy : ∀ e ∈ types.map (TypeDefinition.renamedBy g), Unmarked e.name := by
  intro e he
  obtain ⟨d, -, rfl⟩ := List.mem_map.mp he
  rw [d.renamedBy_eq]
  exact renames.unmarked _

theorem splitMarker_remark (reference : String) : splitMarker (remark g reference) =
    ((splitMarker reference).1, g (splitMarker reference).2) :=
  Jadn.splitMarker_remark (Or.inl (renames.unmarked _))

/-- Base types keep their names, and no other name becomes that of one. -/
theorem ofName? (x : String) : BaseType.ofName? (g x) = BaseType.ofName? x := by
  cases known : BaseType.ofName? x with
  | some b =>
    rw [BaseType.ofName?_eq_some_iff.mp known, renames.base, BaseType.ofName?_name]
  | none =>
    cases known' : BaseType.ofName? (g x) with
    | none => rfl
    | some b =>
      have same : g x = g b.name :=
        (BaseType.ofName?_eq_some_iff.mp known').trans (renames.base b).symm
      rw [renames.injective same, BaseType.ofName?_name] at known
      cases known

theorem builtin?_remark (reference : String) :
    builtin? (remark g reference) = builtin? reference := by
  have parts := renames.splitMarker_remark reference
  cases marked : (splitMarker reference).1 with
  | true =>
    have marked' : (splitMarker (remark g reference)).1 = true := by rw [parts, marked]
    rw [builtin?_of_marked marked, builtin?_of_marked marked']
  | false =>
    have new : remark g reference = g reference := by
      rw [remark, marked, splitMarker_of_unmarked marked]
      rfl
    rw [new, builtin?, builtin?, renames.ofName?]

theorem declared?_renamedBy (x : String) :
    declared? (types.map (TypeDefinition.renamedBy g)) (g x) =
      (declared? types x).map (TypeDefinition.renamedBy g) := by
  have same : (fun d : TypeDefinition => d.name == g x) ∘ TypeDefinition.renamedBy g =
      fun d => d.name == x := by
    funext d
    rw [Function.comp_apply, d.renamedBy_eq, Bool.eq_iff_iff, beq_iff_eq, beq_iff_eq]
    exact renames.injective.eq_iff
  rw [declared?, List.find?_map, same, declared?]

theorem resolvable_remark {reference : String} :
    Schema.Resolvable (types.map (TypeDefinition.renamedBy g)) (remark g reference) ↔
      Schema.Resolvable types reference := by
  rw [Schema.Resolvable, renames.splitMarker_remark, renames.declared?_renamedBy,
    renames.builtin?_remark, Option.isSome_map, Schema.Resolvable]

theorem enumerable_remark {reference : String} (h : Extensions.Enumerable types reference) :
    Extensions.Enumerable (types.map (TypeDefinition.renamedBy g)) (remark g reference) := by
  intro e named
  rw [renames.splitMarker_remark, renames.declared?_renamedBy] at named
  obtain ⟨t, declared, rfl⟩ := Option.map_eq_some_iff.mp named
  obtain ⟨u, derived⟩ := h t declared
  have both := (renames.alike t).toEnumeration
  rw [derived, Except.toOption_ok] at both
  cases enumerated : (t.renamedBy g).toEnumeration with
  | ok u' => exact ⟨u', rfl⟩
  | error fault =>
    rw [enumerated] at both
    cases both

/-- The new names lead to alike definitions, in any schema of the renamed definitions. -/
theorem translation {s r : Schema} (unmarked : ∀ d ∈ s.types, Unmarked d.name)
    (before : s.types = types) (after : r.types = types.map (TypeDefinition.renamedBy g)) :
    Translation s r fun x y => y = g x := by
  have found : ∀ x, r.get? (g x) = (s.get? x).map (TypeDefinition.renamedBy g) := by
    intro x
    rw [Schema.get?, Schema.get?, before, after, renames.declared?_renamedBy]
  refine ⟨?_, fun p q q' => apart_of_injective unmarked ?_ ?_ ?_⟩
  · rintro x _ rfl
    rw [found]
    cases s.get? x with
    | none => exact Or.inl ⟨rfl, rfl, by rw [builtin?, builtin?, renames.ofName?]⟩
    | some d => exact Or.inr ⟨d, _, rfl, rfl, renames.alike d⟩
  · rintro x _ d e rfl known known'
    rw [found, known] at known'
    cases known'
    exact renames.alike d
  · rintro x _ _ rfl rfl
    rfl
  · rintro x x' _ rfl same
    exact renames.injective same

end Renames

end Renamed

namespace Schema

variable {s : Schema} {g : String → String}

theorem Buildable.renamedBy {info : Info} {types : List TypeDefinition} {limits : Limits}
    (b : Buildable info types limits) (unmarked : ∀ d ∈ types, Unmarked d.name)
    (renames : Renames g types) :
    Buildable (info.renamedBy g) (types.map (TypeDefinition.renamedBy g)) limits := by
  -- What is compared along pointers is only what two schemas declare.
  let s : Schema := ⟨info, types, limits, [], [], []⟩
  let r : Schema := ⟨info, types.map (TypeDefinition.renamedBy g), limits, [], [], []⟩
  have translates : Translation s r fun x y => y = g x := renames.translation unmarked rfl rfl
  refine { count := by simpa using b.count, distinct := ?_, exported := ?_, derivable := ?_,
           patterns := ?_, fieldPatterns := ?_ }
  · rw [map_name_renamedBy]
    exact b.distinct.map renames.injective
  · intro name listed
    obtain ⟨x, hx, rfl⟩ := List.mem_map.mp listed
    rw [renames.declared?_renamedBy, Option.isSome_map]
    exact b.exported x hx
  · intro e he
    obtain ⟨d, hd, rfl⟩ := List.mem_map.mp he
    have declared : s.get? d.name = some d := declared?_of_mem b.distinct hd
    have declared' : r.get? (g d.name) = some (d.renamedBy g) := by
      rw [get?, renames.declared?_renamedBy]
      exact congrArg _ declared
    have taken := items?_eq unmarked renames.unmarked_renamedBy translates rfl declared declared'
      (renames.alike d)
    refine ⟨?_, ?_⟩
    · obtain ⟨items, own, formed⟩ := (b.derivable d hd).own
      rw [show Extensions.items? s.types d = .ok items from own, Except.toOption_ok] at taken
      exact ⟨items, Except.toOption_eq_some_iff.mp taken.symm,
        fun listed same => (formed listed same).of_memberKeys_eq rfl⟩
    · intro reference marked
      obtain ⟨looked, marker⟩ := TypeDefinition.mem_markedReferences_iff.mp marked
      rw [d.lookedUp_renamedBy] at looked
      obtain ⟨a, ha, rfl⟩ := List.mem_map.mp looked
      rw [renames.splitMarker_remark] at marker
      exact renames.enumerable_remark ((b.derivable d hd).listed a
        (TypeDefinition.mem_markedReferences_iff.mpr ⟨ha, marker⟩))
  · intro e he
    obtain ⟨d, hd, rfl⟩ := List.mem_map.mp he
    rw [d.renamedBy_eq]
    exact b.patterns d hd
  · intro e he f' hf resolvable
    obtain ⟨d, hd, rfl⟩ := List.mem_map.mp he
    rw [d.fields_renamedBy] at hf
    obtain ⟨f, member, rfl⟩ := List.mem_map.mp hf
    exact b.fieldPatterns d hd f member (renames.resolvable_remark.mp resolvable)

/-- Definitions under new names build, and accept under these what they accepted before. -/
theorem Built.isValid_renamedBy (built : s.Built) (unmarked : ∀ d ∈ s.types, Unmarked d.name)
    (renames : Renames g s.types) :
    ∃ r, (∀ order, build (s.info.renamedBy g) (s.types.map (TypeDefinition.renamedBy g)) s.limits
        order = .ok r) ∧
      ∀ name ∈ s.typeNames, ∀ v, r.isValid (g name) v = s.isValid name v := by
  obtain ⟨order, rebuilt⟩ := built.rebuilt
  have buildable := (exists_build_iff unmarked order).mp ⟨s, rebuilt⟩
  obtain ⟨r, rebuilt⟩ := (exists_build_iff renames.unmarked_renamedBy order).mpr
    (buildable.renamedBy unmarked renames)
  have t := tables_of_build rebuilt
  have proper : s.Proper := by
    refine ⟨built.tables, unmarked, fun d hd => ?_⟩
    rw [← renames.ofName?]
    exact renames.other d hd
  have proper' : r.Proper := by
    refine ⟨t.own, fun e he => renames.unmarked_renamedBy e (t.types_eq ▸ he), fun e he => ?_⟩
    rw [t.types_eq] at he
    obtain ⟨d, hd, rfl⟩ := List.mem_map.mp he
    rw [d.renamedBy_eq]
    exact renames.other d hd
  have bounds : SameBounds s r := .of_eq t.limits_eq.symm (by rw [config, config, t.info_eq]; rfl)
  refine ⟨r, fun order' => (build_eq_ok_iff order order').mp rebuilt, fun name declared v => ?_⟩
  obtain ⟨d, hd, rfl⟩ := List.mem_map.mp declared
  exact ((renames.translation unmarked rfl t.types_eq).isValid_eq proper proper'
    (fun d hd => (built.wellFormed d hd).fieldNames) bounds rfl (unmarked d hd)
    (renames.unmarked _) v).symm

def folders : Schema where
  info := { package := "folders", exports := ["Folder"] }
  types := [
    { name := "Folder"
      options := {}
      description := ""
      kind := .record [
        .new 1 "name" "String",
        { id := 2, name := "parent", typeRef := "Folder",
          options := { minc := some 0, dir := true }, description := "" },
        .new 3 "order" "#Folder"] },
    { name := "Path", options := { pointer := some "Folder" }, description := ""
      kind := .enumerated [] }]
  limits := {}
  extensions := [
    ("#Folder", {
      name := "Enum-Folder"
      options := {}
      description := "Derived Enumerated from Folder"
      kind := .enumerated [⟨1, "name", ""⟩, ⟨2, "parent", ""⟩, ⟨3, "order", ""⟩] }),
    ("Path", {
      name := "Path"
      options := { pointer := some "Folder" }
      description := ""
      kind := .enumerated [⟨1, "name", ""⟩, ⟨2, "order", ""⟩] })]
  fieldTypes := []
  patterns := []

/-- A name that differs from the old one, unless this is that of a base type. -/
def hyphened (name : String) : String :=
  if (BaseType.ofName? name).isSome then name else "New-" ++ name

theorem renames_hyphened {types : List TypeDefinition}
    (other : ∀ d ∈ types, BaseType.ofName? d.name = none) : Renames hyphened types := by
  have apart : ∀ x y, (BaseType.ofName? x).isSome → x ≠ "New-" ++ y := by
    rintro _ y base rfl
    rw [ofName?_of_hyphen (by simp)] at base
    cases base
  refine ⟨fun x y same => ?_, fun b => ?_, fun d hd => ?_, fun x => ?_⟩
  · unfold hyphened at same
    split at same <;> split at same
    · exact same
    · next base _ => exact absurd same (apart x y base)
    · next base => exact absurd same.symm (apart y x base)
    · exact String.append_right_inj "New-" |>.mp same
  · simp [hyphened]
  · rw [hyphened, other d hd]
    exact ofName?_of_hyphen (by simp)
  · unfold hyphened
    split
    · next base => exact unmarked_of_baseType base
    · exact unmarked_iff.mpr (by simp)

/-- The folders under new names. -/
theorem isValid_hyphened_folders :
    folders.Built ∧ (∀ d ∈ folders.types, Unmarked d.name) ∧ Renames hyphened folders.types ∧
      ∃ r, (∀ order, build { folders.info with exports := ["New-Folder"] }
          (folders.types.map (TypeDefinition.renamedBy hyphened)) {} order = .ok r) ∧
        ∀ name ∈ folders.typeNames, ∀ v,
          r.isValid (hyphened name) v = folders.isValid name v := by
  have each : ∀ {P : TypeDefinition → Prop}, P folders.types[0] → P folders.types[1] →
      ∀ d ∈ folders.types, P d := by
    intro P first second d hd
    rcases List.mem_pair.mp hd with rfl | rfl
    · exact first
    · exact second
  have built : folders.Built := ⟨by decide, .entered, rfl⟩
  have unmarked : ∀ d ∈ folders.types, Unmarked d.name := each rfl rfl
  have renames : Renames hyphened folders.types := renames_hyphened (each rfl rfl)
  exact ⟨built, unmarked, renames, built.isValid_renamedBy unmarked renames⟩

end Schema

end Jadn
