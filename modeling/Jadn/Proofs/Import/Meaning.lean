import Jadn.Proofs.Import.Representation
import Jadn.Proofs.Import.Unambiguous

/-!
Imports preserve what definitions mean.

Under a local name, exactly the instances are accepted that the package accepts under the name
that the reference has there, provided that the local names of the package are coherent. They
are whenever the names that definitions are renamed to are free.
-/

set_option autoImplicit false

namespace Jadn.Import

open Relation (ReflTransGen TransGen)
open Validation (SameLimits)

section Unambiguous

variable {src : Sources} {st : State} {r : Schema} (result : Resulted src ProperName st r)
  (orderly : Orderly src st)
include result orderly

theorem Resulted.memo_of_represents {key : String × String} {name : String}
    (h : src.Represents r key name) : st.memo key = some name := by
  obtain ⟨root, ⟨d, e, x, declared, member, leads⟩, steps⟩ := h
  have noted : ∀ q, ReflTransGen (src.Step r.get?) root q → st.memo q.1 = some q.2 := by
    intro q steps
    induction steps with
    | refl =>
      rw [result.tables.types_eq, mem_zip_map_append] at declared
      obtain ⟨hd, rfl⟩ := declared
      rw [TypeDefinition.referredNames_replaced fun x _ => result.unmarked_baseName x,
        ← List.append_nil (d.referredNames.map _), mem_zip_map_append] at member
      obtain ⟨hx, stands⟩ := member
      exact stands ▸ (result.leads d hd x hx).memo_eq leads
    | tail _ step ih =>
      obtain ⟨d, e, x, declared, found, member, leads⟩ := step
      obtain ⟨-, e', -, held, found', -⟩ := result.alike_of_memo ih
      rw [found] at found'
      cases found'
      obtain ⟨d', declared', names, leads'⟩ := orderly.faithful _ _ e ih held
      rw [declared] at declared'
      cases declared'
      rw [names, ← List.append_nil (d.referredNames.map _), mem_zip_map_append] at member
      obtain ⟨hx, stands⟩ := member
      exact stands ▸ (leads' x hx).memo_eq leads
  exact noted (key, name) steps

/-- Definitions of a package go by distinct local names, one each, if the names that definitions
are renamed to are free. -/
theorem Resulted.renaming_of_unambiguous (unambiguous : src.Unambiguous)
    (naming : Naming src ProperName) (names : ∀ d ∈ src.base.types, ProperName d.name)
    {s : Schema} {package : String} (found : src.packages.lookup package = some s)
    (plain : ∀ d ∈ s.types, ∀ x ∈ d.referredNames, ':' ∉ x.toList) (proper : s.Proper) :
    Renaming s r (src.StandsFor r package) := by
  have known : ∀ {x l}, src.Represents r (package, x) l → BaseType.ofName? x = none ∧
      BaseType.ofName? l = none ∧ (l = x ∨ src.Renames (package, x) l) := by
    intro x l represents
    have noted := result.memo_of_represents orderly represents
    obtain ⟨declared, name⟩ := orderly.known _ l noted
    obtain ⟨d, declared⟩ := Option.isSome_iff_exists.mp declared
    exact ⟨(naming.declared _ d declared).other, (result.sound.good _ l noted).other, name⟩
  have declared : ∀ {x l}, src.Represents r (package, x) l →
      ∃ d, src.definition? (package, x) = some d := by
    intro x l represents
    exact Option.isSome_iff_exists.mp
      (orderly.known _ l (result.memo_of_represents orderly represents)).1
  have functional : ∀ {x l l'}, src.Represents r (package, x) l →
      src.Represents r (package, x) l' → l = l' := by
    intro x l l' represents represents'
    have noted := result.memo_of_represents orderly represents
    rw [result.memo_of_represents orderly represents'] at noted
    exact (Option.some.inj noted).symm
  have alike : src.AlikeNames r package := by
    intro x l l' represents represents'
    obtain rfl := functional represents represents'
    obtain ⟨-, e, -, -, found, -⟩ :=
      result.alike_of_memo (result.memo_of_represents orderly represents)
    exact ⟨e, e, found, found, (TypeDefinition.alike_of_beq (BEq.refl e)).imp fun y y' same _ =>
      same.symm⟩
  apply Renaming.of_injective proper
  · exact fun x l => related_of_alikeNames result names found plain alike
  · rintro x l l' (⟨base, rfl⟩ | represents) (⟨base', rfl⟩ | represents')
    · rfl
    · simp [(known represents').1] at base
    · simp [(known represents).1] at base'
    · exact functional represents represents'
  · rintro x x' l (⟨base, rfl⟩ | represents) (⟨base', rfl⟩ | represents')
    · rfl
    · simp [(known represents').2.1] at base
    · simp [(known represents).2.1] at base'
    · obtain ⟨d, own⟩ := declared represents
      obtain ⟨d', own'⟩ := declared represents'
      rcases (known represents).2.2 with rfl | renames <;>
        rcases (known represents').2.2 with rfl | renames'
      · rfl
      · exact absurd rfl (unambiguous.unused _ _ _ d renames' own)
      · exact absurd rfl (unambiguous.unused _ _ _ d' renames own')
      · exact congrArg Prod.snd (unambiguous.distinct _ _ _ renames renames')

end Unambiguous

end Jadn.Import

namespace Jadn.Schema

open Import
open Validation (SameLimits)

/-- Every name has the default form of type names and is not that of a base type. -/
def NamesRegular (s : Schema) : Prop :=
  ∀ d ∈ s.types, Name.isTypeName d.name = true ∧ BaseType.ofName? d.name = none

def SelfContained (s : Schema) : Prop :=
  ∀ d ∈ s.types, ∀ x ∈ d.referredNames, ':' ∉ x.toList

theorem NamesRegular.properName {s : Schema} (regular : s.NamesRegular) :
    ∀ d ∈ s.types, ProperName d.name :=
  fun d hd => properName_of_isTypeName (regular d hd).1 (regular d hd).2

theorem Built.proper {s : Schema} (built : s.Built) (regular : s.NamesRegular) : s.Proper where
  tables := built.tables
  unmarked := fun d hd => (regular.properName d hd).unmarked
  other := fun d hd => (regular d hd).2

structure Imported (base : Schema) (packages : List Package) (r : Schema) : Prop where
  distinct : (packages.map (·.name)).Nodup
  built : ∀ p ∈ packages, p.schema.Built
  baseNames : base.NamesRegular
  packageNames : ∀ p ∈ packages, p.schema.NamesRegular
  labels : ∀ label, Labels base packages label → Unmarked label
  done : ∃ order, base.importPackages packages order = .ok r

/-- A local name stands where a definition of the base refers to a name of a package. -/
def Replaces (base r : Schema) (p : Package) (name l : String) : Prop :=
  ∃ d e x label, (d, e) ∈ base.types.zip r.types ∧ (x, l) ∈ d.referredNames.zip e.referredNames ∧
    Name.splitNamespace x = (some label, name) ∧ base.info.namespaces.package? label = some p.name

theorem Replaces.represents {base r : Schema} {packages : List Package} {p : Package}
    {name l : String} (replaces : Replaces base r p name l) :
    (sources base packages).Represents r (p.name, name) l := by
  obtain ⟨d, e, x, label, hd, hx, qualified, known⟩ := replaces
  refine ⟨((p.name, name), l), ⟨d, e, x, hd, hx, ?_⟩, .refl⟩
  exact Sources.baseTarget?_eq_some_iff.mpr ⟨label, qualified, known⟩

namespace Imported

variable {base r : Schema} {packages : List Package} (imported : Imported base packages r)
include imported

theorem naming : Naming (sources base packages) ProperName :=
  naming_proper (fun p hp => (imported.packageNames p hp).properName) imported.labels

theorem lookup {p : Package} (hp : p ∈ packages) :
    (sources base packages).packages.lookup p.name = some p.schema := by
  have keys : (packages.map fun p => (p.name, p.schema)).map Prod.fst = packages.map (·.name) := by
    simp [Function.comp_def]
  have distinct := imported.distinct
  rw [← keys] at distinct
  rw [sources, Dict.ofList_of_nodup distinct]
  exact lookup_of_mem distinct (List.mem_map_of_mem hp)

theorem resulted : ∃ types st, (baseTypes (sources base packages)).run {} = .ok (types, st) ∧
    Resulted (sources base packages) ProperName st r := by
  obtain ⟨order, done⟩ := imported.done
  obtain ⟨types, st, followed, tables⟩ := importPackages_eq_ok done
  exact ⟨types, st, followed, resulted_of_run imported.naming.toNames followed tables⟩

theorem proper : r.Proper := by
  obtain ⟨types, st, -, result⟩ := imported.resulted
  exact result.proper imported.baseNames.properName

/-- A renaming of a package carries over what is accepted. -/
theorem isValid_eq {p : Package} (hp : p ∈ packages) (limits : SameLimits p.schema base)
    (renames : Renaming p.schema r ((sources base packages).StandsFor r p.name)) {name l : String}
    (represents : (sources base packages).Represents r (p.name, name) l) (v : Json) :
    r.isValid l v = p.schema.isValid name v := by
  obtain ⟨types, st, -, result⟩ := imported.resulted
  have built := imported.built p hp
  have same : SameLimits p.schema r := by
    refine ⟨limits.limits.trans result.tables.limits_eq.symm, ?_⟩
    rw [config, config, result.tables.info_eq]
    exact limits.config
  have fields : ∀ d ∈ p.schema.types, (d.fields.map Field.name).Nodup :=
    fun d hd => (built.wellFormed d hd).fieldNames
  exact (renames.isValid_eq (built.proper (imported.packageNames p hp)) imported.proper fields
    same.bounds (Or.inr represents) v).symm

/-- The local names of a package are coherent if the names that definitions are renamed to are
free and the base refers to nothing unknown. -/
theorem coherent_of_unambiguous (unambiguous : (sources base packages).Unambiguous)
    (complete : base.Complete) {p : Package} (hp : p ∈ packages)
    (contained : p.schema.SelfContained) :
    (sources base packages).Coherent r p.name p.schema := by
  obtain ⟨types, st, followed, result⟩ := imported.resulted
  have proper := (imported.built p hp).proper (imported.packageNames p hp)
  have start : Regular (sources base packages) {} :=
    ⟨sound_empty, complete.tight_empty, orderly_empty⟩
  have regular := baseTypes_keeps (importName_keeps imported.naming unambiguous) start followed
  refine (coherent_iff_renaming result imported.baseNames.properName (imported.lookup hp)
    contained proper imported.proper).mpr ?_
  exact result.renaming_of_unambiguous regular.orderly unambiguous imported.naming
    imported.baseNames.properName (imported.lookup hp) contained proper

end Imported

/-- Under the local name that replaces a qualified reference, exactly the instances are accepted
that the package accepts under the name there, if the local names of the package are coherent. -/
theorem importPackages_isValid {base r : Schema} {packages : List Package}
    (imported : Imported base packages r) {p : Package} (hp : p ∈ packages)
    (limits : SameLimits p.schema base) (contained : p.schema.SelfContained)
    (coherent : (sources base packages).Coherent r p.name p.schema) {name l : String}
    (replaces : Replaces base r p name l) (v : Json) :
    r.isValid l v = p.schema.isValid name v := by
  obtain ⟨types, st, -, result⟩ := imported.resulted
  have proper := (imported.built p hp).proper (imported.packageNames p hp)
  have renames := (coherent_iff_renaming result imported.baseNames.properName (imported.lookup hp)
    contained proper imported.proper).mp coherent
  exact imported.isValid_eq hp limits renames replaces.represents v

def taken : Schema where
  info := { package := "base", namespaces := { packages := [("p", "pkg")] } }
  types := [wrapping "Root" "start" "p:Node", wrapping "Node" "text" "String"]
  limits := {}
  extensions := []
  fieldTypes := []
  patterns := []

theorem linked_built : linked.Built := ⟨by decide, .entered, rfl⟩

theorem unambiguous_taken : (sources taken [⟨"pkg", linked⟩]).Unambiguous := by
  have renamed : ∀ key name, (sources taken [⟨"pkg", linked⟩]).Renames key name →
      key = ("pkg", "Node") ∧ name = "P-Node" ∨ key = ("pkg", "Mark") ∧ name = "P-Mark" := by
    rintro ⟨package, name⟩ new ⟨label, d, labelled, declared, rfl⟩
    obtain rfl := labels_linked rfl (labels_of_label labelled).2
    obtain ⟨schema, found, own⟩ := Option.bind_eq_some_iff.mp declared
    cases List.mem_singleton.mp (mem_of_lookup_sources found)
    obtain ⟨hd, rfl⟩ := mem_of_declared? own
    rcases List.mem_pair.mp hd with rfl | rfl
    · exact Or.inl ⟨rfl, by decide⟩
    · exact Or.inr ⟨rfl, by decide⟩
  constructor
  · intro key name renames
    rcases renamed key name renames with ⟨-, rfl⟩ | ⟨-, rfl⟩ <;> rfl
  · intro key name other d renames declared
    obtain ⟨p, hp, hd, named⟩ := mem_of_definition? declared
    rw [List.mem_singleton.mp hp] at hd
    rw [← named]
    rcases renamed key name renames with ⟨-, rfl⟩ | ⟨-, rfl⟩ <;>
      rcases List.mem_pair.mp hd with rfl | rfl <;> decide
  · intro key key' name renames renames'
    rcases renamed key name renames with ⟨rfl, rfl⟩ | ⟨rfl, rfl⟩ <;>
      rcases renamed key' _ renames' with ⟨rfl, same⟩ | ⟨rfl, same⟩
    · rfl
    · exact absurd same (by decide)
    · exact absurd same (by decide)
    · rfl

/-- The definition of the package and all that it refers to keep their meaning under other
names. -/
theorem importPackages_taken :
    ∃ r, Imported taken [⟨"pkg", linked⟩] r ∧ Replaces taken r ⟨"pkg", linked⟩ "Node" "P-Node" ∧
      SameLimits linked taken ∧ linked.SelfContained ∧
        (sources taken [⟨"pkg", linked⟩]).Coherent r "pkg" linked ∧
          ∀ v, r.isValid "P-Node" v = linked.isValid "Node" v := by
  have names : (taken.importPackages [⟨"pkg", linked⟩] .entered).toOption.map
      (fun r => (taken.types.zip r.types).map fun e => e.1.referredNames.zip e.2.referredNames) =
        some [[("p:Node", "P-Node")], [("String", "String")]] := by decide +kernel
  obtain ⟨r, done, names⟩ := Option.map_eq_some_iff.mp names
  have imported : Imported taken [⟨"pkg", linked⟩] r := by
    refine ⟨by simp, ?_, ?_, ?_, ?_, .entered, Except.toOption_eq_some_iff.mp done⟩
    · intro p hp
      exact List.mem_singleton.mp hp ▸ linked_built
    · intro d hd
      rcases List.mem_pair.mp hd with rfl | rfl <;> exact ⟨by decide, by decide⟩
    · intro p hp d hd
      rw [List.mem_singleton.mp hp] at hd
      rcases List.mem_pair.mp hd with rfl | rfl <;> exact ⟨by decide, by decide⟩
    · intro label known
      rw [labels_linked rfl known]
      rfl
  have replaces : Replaces taken r ⟨"pkg", linked⟩ "Node" "P-Node" := by
    obtain ⟨⟨d, e⟩, member, zipped⟩ :=
      List.mem_map.mp (names ▸ List.mem_cons_self : [("p:Node", "P-Node")] ∈ List.map _ _)
    refine ⟨d, e, "p:Node", "p", member, ?_, by decide, rfl⟩
    exact zipped ▸ List.mem_singleton_self _
  have limits : SameLimits linked taken := ⟨rfl, by decide⟩
  have contained : linked.SelfContained := by
    intro d hd
    rcases List.mem_pair.mp hd with rfl | rfl <;> decide
  have complete : taken.Complete := by
    intro d hd
    rcases List.mem_pair.mp hd with rfl | rfl <;> decide
  have member := List.mem_singleton_self (Package.mk "pkg" linked)
  have coherent := imported.coherent_of_unambiguous unambiguous_taken complete member contained
  exact ⟨r, imported, replaces, limits, contained, coherent,
    importPackages_isValid imported member limits contained coherent replaces⟩

end Jadn.Schema
