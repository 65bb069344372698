import Jadn.Proofs.Import.Closure
import Jadn.Proofs.Schema.Renaming

/-!
What imported types mean.

A definition of a package goes by the local names that stand, in the result, where the
references stood that lead to it. Every definition that is met has one local name under which
an alike definition is declared. So if all local names of a definition stand for alike
definitions, the names of a package and the local names form a renaming, and instances are
accepted as they are in the package.
-/

set_option autoImplicit false

namespace Jadn.Import

open Relation (ReflTransGen TransGen)
open Validation (SameLimits)

def Sources.Root (src : Sources) (r : Schema) (p : (String × String) × String) : Prop :=
  ∃ d e x, (d, e) ∈ src.base.types.zip r.types ∧ (x, p.2) ∈ d.referredNames.zip e.referredNames ∧
    src.baseTarget? x = some p.1

def Sources.Represents (src : Sources) (r : Schema) (key : String × String) (name : String) :
    Prop :=
  ∃ root, src.Root r root ∧ ReflTransGen (src.Step r.get?) root (key, name)

theorem not_mem_of_baseType {x : String} (base : (BaseType.ofName? x).isSome) :
    ':' ∉ x.toList := by
  obtain ⟨b, known⟩ := Option.isSome_iff_exists.mp base
  rw [BaseType.ofName?_eq_some_iff.mp known]
  cases b <;> decide

theorem properName_of_isTypeName {name : String} (form : Name.isTypeName name = true)
    (other : BaseType.ofName? name = none) : ProperName name := by
  obtain ⟨plain, unmarked⟩ := plain_of_isTypeName form
  exact ⟨plain, other, unmarked⟩

namespace Resulted

variable {src : Sources} {st : State} {r : Schema} (result : Resulted src ProperName st r)
include result

theorem properName (names : ∀ d ∈ src.base.types, ProperName d.name) :
    ∀ d ∈ r.types, ProperName d.name := by
  intro d hd
  rcases result.mem_types_iff.mp hd with own | imported
  · obtain ⟨d₀, hd₀, rfl⟩ := List.mem_map.mp own
    exact names d₀ hd₀
  · exact result.sound.listed d.name (List.mem_map_of_mem imported)

theorem proper (names : ∀ d ∈ src.base.types, ProperName d.name) : r.Proper := by
  have proper := result.properName names
  exact ⟨result.tables.own, fun d hd => (proper d hd).unmarked, fun d hd => (proper d hd).other⟩

theorem unmarked_baseName (x : String) :
    Unmarked (st.baseName src x) ∨ st.baseName src x = x := by
  unfold State.baseName
  cases noted : (src.baseTarget? x).bind st.memo with
  | none => exact Or.inr rfl
  | some name =>
    obtain ⟨key, -, met⟩ := Option.bind_eq_some_iff.mp noted
    exact Or.inl (result.sound.good key name met).unmarked

/-- A definition is declared in the result with at most its qualified references replaced. -/
theorem get?_of_held {name : String} {e : TypeDefinition} (held : st.held src.base name = some e) :
    ∃ g, (∀ x, ':' ∉ x.toList → g x = x) ∧ r.get? name = some (e.replaced g) ∧
      (e.replaced g).referredNames = e.referredNames.map g := by
  rcases State.held_eq_some_iff.mp held with declared | ⟨-, imported⟩
  · obtain ⟨he, rfl⟩ := mem_of_declared? declared
    refine ⟨st.baseName src, fun x plain => st.baseName_of_not_mem src plain, ?_,
      TypeDefinition.referredNames_replaced fun x _ => result.unmarked_baseName x⟩
    exact result.get?_of_mem (result.mem_types_iff.mpr (Or.inl (List.mem_map_of_mem he)))
  · have entry := mem_of_lookup imported
    have named := result.sound.named name e entry
    have same : e.replaced id = e := TypeDefinition.replaced_of_fixed fun x _ => rfl
    refine ⟨id, fun x _ => rfl, ?_, by rw [same, List.map_id]⟩
    rw [same, ← named]
    exact result.get?_of_mem (result.mem_types_iff.mpr (Or.inr (named ▸ entry)))

theorem step_of_held {p q : (String × String) × String}
    (step : src.Step (st.held src.base) p q) (plain : ':' ∉ q.2.toList) : src.Step r.get? p q := by
  obtain ⟨d, e, x, declared, held, member, leads⟩ := step
  obtain ⟨g, fixed, found, names⟩ := result.get?_of_held held
  refine ⟨d, _, x, declared, found, ?_, leads⟩
  rw [names, List.zip_map_right]
  refine List.mem_map.mpr ⟨(x, q.2), member, ?_⟩
  simp [fixed q.2 plain]

theorem root_of_mem {d : TypeDefinition} (hd : d ∈ src.base.types) {x : String}
    (hx : x ∈ d.referredNames) {key : String × String} {name : String}
    (leads : src.baseTarget? x = some key) (noted : st.memo key = some name) :
    src.Root r (key, name) := by
  have stands : st.baseName src x = name := State.baseName_of_memo leads noted
  refine ⟨d, d.replaced (st.baseName src), x, ?_, ?_, leads⟩
  · rw [result.tables.types_eq]
    exact mem_zip_map_append.mpr ⟨hd, rfl⟩
  · rw [TypeDefinition.referredNames_replaced fun x _ => result.unmarked_baseName x,
      ← List.append_nil (d.referredNames.map _)]
    exact mem_zip_map_append.mpr ⟨hx, stands⟩

theorem met_of_target {key target : String × String} (met : (st.memo key).isSome)
    {d : TypeDefinition} (declared : src.definition? key = some d) {x : String}
    (hx : x ∈ d.referredNames) (leads : src.target? key.1 x = some target) :
    (st.memo target).isSome := by
  obtain ⟨name, noted⟩ := Option.isSome_iff_exists.mp met
  obtain ⟨d', e, g, declared', -, -, names⟩ := result.run.settled key name rfl noted
  rw [declared] at declared'
  cases declared'
  rcases names x hx with ⟨base, -⟩ | ⟨-, other, leads', -, met'⟩
  · simp [Sources.target?, base] at leads
  · rw [leads] at leads'
    cases leads'
    exact met'

theorem met_of_represents {key : String × String} {name : String}
    (h : src.Represents r key name) : (st.memo key).isSome := by
  obtain ⟨root, asked, steps⟩ := h
  have met : ∀ q, ReflTransGen (src.Step r.get?) root q → (st.memo q.1).isSome := by
    intro q steps
    induction steps with
    | refl =>
      obtain ⟨d, e, x, declared, member, leads⟩ := asked
      have hx := (List.of_mem_zip member).1
      exact Option.isSome_of_eq_some
        ((result.leads d (List.of_mem_zip declared).1 x hx).memo_eq leads)
    | tail _ step ih =>
      obtain ⟨d, e, x, declared, -, member, leads⟩ := step
      exact result.met_of_target ih declared (List.of_mem_zip member).1 leads
  exact met (key, name) steps

theorem properName_of_held (names : ∀ d ∈ src.base.types, ProperName d.name) {name : String}
    {e : TypeDefinition} (held : st.held src.base name = some e) : ProperName name := by
  rcases State.held_eq_some_iff.mp held with declared | ⟨-, imported⟩
  · obtain ⟨hd, rfl⟩ := mem_of_declared? declared
    exact names e hd
  · exact result.sound.listed name (List.mem_map_of_mem (mem_of_lookup imported))

theorem represents_of_memo (names : ∀ d ∈ src.base.types, ProperName d.name)
    {key : String × String} {name : String} (noted : st.memo key = some name) :
    src.Represents r key name := by
  obtain ⟨root, first, ⟨d, hd, x, hx, leads⟩, -, start, steps⟩ :=
    result.run.reached (fun x good => good.unmarked) key name rfl noted
  refine ⟨(root, first), result.root_of_mem hd hx leads start, ?_⟩
  -- Along the way, every name is that of a finished definition.
  have lift : ∀ q, ReflTransGen (src.Step (st.held src.base)) (root, first) q →
      ':' ∉ q.2.toList → ReflTransGen (src.Step r.get?) (root, first) q := by
    intro q steps
    induction steps with
    | refl => exact fun _ => .refl
    | tail _ step ih =>
      intro plain
      obtain ⟨d, e, x, declared, held, rest⟩ := step
      have before := ih (result.properName_of_held names held).plain
      exact before.tail (result.step_of_held ⟨d, e, x, declared, held, rest⟩ plain)
  exact lift (key, name) steps (result.sound.good key name noted).plain

/-- Under the local name that was noted for it, a definition is declared up to the names that
it refers to. -/
theorem alike_of_memo {key : String × String} {name : String}
    (noted : st.memo key = some name) :
    ∃ d e, src.definition? key = some d ∧ st.held src.base name = some e ∧
      r.get? name = some e ∧ d.Alike (fun x y => (BaseType.ofName? x).isSome → y = x) e := by
  obtain ⟨d, e, g, declared, held, same, names⟩ := result.run.settled key name rfl noted
  have unmarked : ∀ x ∈ d.referredNames, Unmarked (g x) := by
    intro x hx
    rcases names x hx with ⟨base, fixed⟩ | ⟨good, -⟩
    · exact fixed.symm ▸ unmarked_of_baseType base
    · exact good.unmarked
  have references : e.referredNames = d.referredNames.map g := by
    rw [TypeDefinition.referredNames_of_beq same]
    exact TypeDefinition.referredNames_replaced fun x hx => Or.inl (unmarked x hx)
  have plain : ∀ y ∈ e.referredNames, ':' ∉ y.toList := by
    intro y hy
    obtain ⟨x, hx, rfl⟩ := List.mem_map.mp (references ▸ hy)
    rcases names x hx with ⟨base, fixed⟩ | ⟨good, -⟩
    · exact fixed.symm ▸ not_mem_of_baseType base
    · exact good.plain
  obtain ⟨g', fixed, found, -⟩ := result.get?_of_held held
  rw [TypeDefinition.replaced_of_fixed fun y hy => fixed y (plain y hy)] at found
  have alike := (TypeDefinition.alike_of_beq_replaced unmarked same).zipped
  refine ⟨d, e, declared, held, found, alike.imp ?_⟩
  rintro x y ⟨rfl, member⟩ base
  rcases names x (List.of_mem_zip member).1 with ⟨-, fixed⟩ | ⟨-, target, leads, -⟩
  · exact fixed
  · simp [Sources.target?, base] at leads

end Resulted

def Sources.AlikeNames (src : Sources) (r : Schema) (package : String) : Prop :=
  ∀ x l l', src.Represents r (package, x) l → src.Represents r (package, x) l' →
    ∃ e e', r.get? l = some e ∧ r.get? l' = some e' ∧
      e.Alike (fun y y' => (BaseType.ofName? y).isSome → y' = y) e'

/-- The local names of a definition stand for alike definitions, and below a pointer they are as
distinct as the definitions are. -/
structure Sources.Coherent (src : Sources) (r : Schema) (package : String) (s : Schema) : Prop where
  alike : src.AlikeNames r package
  apart : ∀ p q q', Pointed s r (fun x l => src.Represents r (package, x) l) p →
    ReflTransGen (Inside s r) p q → TransGen (Inside s r) q q' → (q.1 = q'.1 ↔ q.2 = q'.2)

/-- What stands for a name of a package: the name itself if it is that of a base type, or else a
local name of the definition. -/
def Sources.StandsFor (src : Sources) (r : Schema) (package x l : String) : Prop :=
  (BaseType.ofName? x).isSome ∧ l = x ∨ src.Represents r (package, x) l

section Package

variable {src : Sources} {st : State} {r s : Schema} {package : String}
  (result : Resulted src ProperName st r) (names : ∀ d ∈ src.base.types, ProperName d.name)
  (found : src.packages.lookup package = some s)
  (plain : ∀ d ∈ s.types, ∀ x ∈ d.referredNames, ':' ∉ x.toList)
include result names found plain

/-- What stands for the names of a package leads to alike definitions. -/
theorem related_of_alikeNames (alike : src.AlikeNames r package) {x l : String}
    (stands : src.StandsFor r package x l) : (BaseType.ofName? x).isSome ∧ l = x ∨
      ∃ d e, s.get? x = some d ∧ r.get? l = some e ∧ d.Alike (src.StandsFor r package) e := by
  rcases stands with base | represents
  · exact Or.inl base
  · right
    obtain ⟨kept, noted⟩ := Option.isSome_iff_exists.mp (result.met_of_represents represents)
    obtain ⟨d, e, declared, -, held, same⟩ := result.alike_of_memo noted
    obtain ⟨e₁, e', held₁, held', similar⟩ :=
      alike x kept l (result.represents_of_memo names noted) represents
    rw [held] at held₁
    cases held₁
    have own : s.get? x = some d := by simpa [Sources.definition?, found] using declared
    refine ⟨d, e', own, held', (same.comp similar).zipped.imp ?_⟩
    rintro y y' ⟨⟨z, first, second⟩, member⟩
    by_cases base : (BaseType.ofName? y).isSome
    · have fixed := first base
      subst fixed
      exact Or.inl ⟨base, second base⟩
    · right
      obtain ⟨root, asked, steps⟩ := represents
      refine ⟨root, asked, steps.tail ⟨d, e', y, declared, held', member, ?_⟩⟩
      have unqualified := plain d (mem_of_declared? own).1 y (List.of_mem_zip member).1
      simp [Sources.target?, base, splitNamespace_of_not_mem unqualified]

/-- What stands for the names of a package makes up a renaming if and only if its local names
are coherent. -/
theorem coherent_iff_renaming (proper : s.Proper) (proper' : r.Proper) :
    src.Coherent r package s ↔ Renaming s r (src.StandsFor r package) := by
  constructor
  · intro coherent
    constructor
    · exact fun x l => related_of_alikeNames result names found plain coherent.alike
    · rintro p q q' ⟨x, l, d, e, stands, own, held, pointers⟩
      rcases stands with ⟨base, -⟩ | represents
      · rw [proper.get?_of_baseType base] at own
        cases own
      · exact coherent.apart p q q' ⟨x, l, d, e, represents, own, held, pointers⟩
  · intro renames
    have base_of_left : ∀ {y y' : String}, src.StandsFor r package y y' →
        (BaseType.ofName? y).isSome → y' = y := by
      rintro y y' stands base
      rcases renames.related y y' stands with ⟨-, same⟩ | ⟨d, e, own, -, -⟩
      · exact same
      · rw [proper.get?_of_baseType base] at own
        cases own
    have base_of_right : ∀ {y y' : String}, src.StandsFor r package y y' →
        (BaseType.ofName? y').isSome → y' = y := by
      rintro y y' stands base
      rcases renames.related y y' stands with ⟨-, same⟩ | ⟨d, e, -, held, -⟩
      · exact same
      · rw [proper'.get?_of_baseType base] at held
        cases held
    have alike : ∀ {x l : String}, src.Represents r (package, x) l → ∃ d e, s.get? x = some d ∧
        r.get? l = some e ∧ d.Alike (src.StandsFor r package) e := by
      intro x l represents
      rcases renames.related x l (Or.inr represents) with ⟨base, -⟩ | alike
      · obtain ⟨kept, noted⟩ := Option.isSome_iff_exists.mp (result.met_of_represents represents)
        obtain ⟨d, -, declared, -⟩ := result.alike_of_memo noted
        have own : s.get? x = some d := by simpa [Sources.definition?, found] using declared
        rw [proper.get?_of_baseType base] at own
        cases own
      · exact alike
    constructor
    · intro x l l' first second
      obtain ⟨d, e, own, held, one⟩ := alike first
      obtain ⟨d', e', own', held', other⟩ := alike second
      rw [own] at own'
      cases own'
      refine ⟨e, e', held, held', (one.flip.comp other).imp ?_⟩
      rintro y y' ⟨z, left, right⟩ base
      have same := base_of_right left base
      subst same
      exact base_of_left right base
    · rintro p q q' ⟨x, l, d, e, represents, rest⟩
      exact renames.apart p q q' ⟨x, l, d, e, Or.inr represents, rest⟩

end Package

end Jadn.Import
