import Jadn.Proofs.Import.Copies
import Jadn.Proofs.Import.Reasons

/-!
When a definition of a package is represented by one that has its name already.

If what holds its name in the result equals it, then none of the reasons for another name applies,
save those that hinder the comparison: something that refers to the provisional name, a definition
that was not finished yet, or one of the base that refers to packages.
-/

set_option autoImplicit false

namespace Jadn.Import

open Relation (ReflTransGen TransGen)

variable {src : Sources} {Good : String → Prop} {st st' : State}

section Folding

def Sources.within (src : Sources) (localName : String × String → String) (package x : String) :
    String :=
  ((src.target? package x).map localName).getD x

/-- What has the name of a definition in a schema is equal to that definition with local names in
place of its references. -/
def Sources.holdsEqual (src : Sources) (r : Schema) (localName : String × String → String)
    (key : String × String) : Bool :=
  match src.definition? key, r.get? key.2 with
  | some d, some e => e == (d.replaced (src.within localName key.1)).renamed key.2
  | _, _ => false

/-- What keeps a definition from being represented by an equal one that has its name. -/
inductive Hindrance (src : Sources) (r : Schema) (localName : String × String → String)
    (found : List (String × String)) (copies : List ((String × String) × TypeDefinition))
    (key : String × String) : Prop where
  /-- The definition of the base that has the name refers to packages. -/
  | qualified {d : TypeDefinition} {x : String} (declared : src.base.get? key.2 = some d)
      (refers : x ∈ d.referredNames) (qualified : ':' ∈ x.toList)
  /-- What has the name is a copy that is not finished when the definition is imported: it is being
  followed then, or it is not discovered yet. -/
  | unfinished {c : (String × String) × TypeDefinition} {before after : List (String × String)}
      (copied : c ∈ copies) (named : c.2.name = key.2) (split : found = before ++ key :: after)
      (late : c.1 ∈ before → src.Following before c.1 key)
  /-- A copy of what the definition leads to, and what is discovered after it, refers to the name
  that it goes by. -/
  | referred {k : String × String} {c : (String × String) × TypeDefinition}
      (leads : src.LeadsTo key k) (later : [key, k].Sublist found) (copied : c ∈ copies)
      (named : c.2.name = localName k) (refers : localName key ∈ c.2.references)

variable {r : Schema} {found : List (String × String)}
  {copies : List ((String × String) × TypeDefinition)}

def State.named (st : State) (key : String × String) : String := (st.memo key).getD key.2

theorem Sources.within_named {st : State} {package x : String} (leads : st.Leads src package x) :
    src.within st.named package x = st.localName src package x := by
  rcases leads with base | ⟨target, leads, met⟩
  · simp [Sources.within, State.localName, Sources.target?, base]
  · obtain ⟨n, noted⟩ := Option.isSome_iff_exists.mp met
    simp [Sources.within, State.localName, State.named, leads, noted]

theorem Explored.copy_of_held {keys : List (String × String)}
    (explored : Explored src {} st keys found copies) {n : String} {e : TypeDefinition}
    (undeclared : src.base.get? n = none) (held : st.held src.base n = some e) :
    ∃ c ∈ copies, c.2 = e ∧ c.2.name = n := by
  obtain ⟨-, imported⟩ := (State.held_eq_some_iff.mp held).resolve_left (by simp [undeclared])
  have entry := mem_of_lookup imported
  rw [explored.imported] at entry
  simp only [finished, List.nil_append, List.map_map, List.mem_map, Function.comp_apply,
    Prod.mk.injEq, Option.some.injEq] at entry
  obtain ⟨c, hc, named, same⟩ := entry
  exact ⟨c, hc, same, named⟩

namespace Assembled

variable {localName : String × String → String} (assembled : Assembled src r localName found copies)
  {c : (String × String) × TypeDefinition} (copied : c ∈ copies)
include assembled copied

theorem get?_of_copied : r.get? c.2.name = some c.2 := by
  refine declared?_of_mem assembled.distinct ?_
  rw [assembled.types]
  exact List.mem_append_right _ (List.mem_map_of_mem copied)

theorem get?_base_of_copied : src.base.get? c.2.name = none := by
  by_contra declared
  rw [← ne_eq, Option.ne_none_iff_isSome] at declared
  have distinct := assembled.distinct
  rw [Schema.typeNames, assembled.types, List.map_append, List.map_map, List.nodup_append] at distinct
  exact distinct.2.2 c.2.name (declared?_isSome_iff.mp declared) c.2.name
    (List.mem_map_of_mem (List.mem_map_of_mem copied)) rfl

end Assembled

namespace Resulted

variable (result : Resulted src (fun x => ':' ∉ x.toList) st r)
include result

/-- What has a name that the base does not declare is a copy. -/
theorem copy_of_get? (explored : Explored src {} st src.roots found copies) {n : String}
    {e : TypeDefinition} (undeclared : src.base.get? n = none) (h : r.get? n = some e) :
    ∃ c ∈ copies, c.2 = e ∧ e.name = n := by
  obtain ⟨he, rfl⟩ := mem_of_declared? h
  rw [result.types_eq explored] at he
  rcases List.mem_append.mp he with own | copied
  · obtain ⟨d, hd, rfl⟩ := List.mem_map.mp own
    exact absurd (List.mem_map_of_mem hd) (Schema.get?_eq_none_iff.mp undeclared)
  · obtain ⟨c, hc, rfl⟩ := List.mem_map.mp copied
    exact ⟨c, hc, rfl, rfl⟩

theorem folds (explored : Explored src {} st src.roots found copies)
    (explained : Explained src ∅ [] found st) {key : String × String} (hkey : key ∈ found)
    (acyclic : ¬ src.Cyclic key) (free : ¬ Hindrance src r st.named found copies key)
    (equal : src.holdsEqual r st.named key = true) : st.named key = key.2 := by
  by_contra other
  have met : ∀ k, k ∈ st.met ↔ k ∈ found := by
    intro k
    rw [explored.met, State.met_empty, Set.empty_union, Set.mem_ofPred_eq]
  have noted : st.memo key = some (st.named key) := by
    obtain ⟨n, noted⟩ := Option.isSome_iff_exists.mp ((met key).mpr hkey)
    simp [State.named, noted]
  obtain ⟨before, after, split, reason⟩ := explained.reason hkey
  unfold Sources.holdsEqual at equal
  split at equal
  · next d e declared holds =>
    cases reason acyclic _ noted other with
    | different declared' leads held unequal =>
      cases declared.symm.trans declared'
      rcases result.get?_or_qualified held with holds' | ⟨own, x, hx, qualified⟩
      · cases holds.symm.trans holds'
        rw [TypeDefinition.replaced_congr fun x hx => src.within_named (leads x hx),
          unequal] at equal
        cases equal
      · exact free (.qualified own hx qualified)
    | unheld undeclared others =>
      obtain ⟨c, hc, rfl, stands⟩ := result.copy_of_get? explored undeclared holds
      have noted' : st.memo c.1 = some key.2 := stands ▸ (explored.copied c hc).2
      refine free (.unfinished hc stands split fun early => ?_)
      by_contra away
      obtain ⟨n, noted, unequal⟩ := others c.1 early away
      exact unequal (Option.some.inj (noted.symm.trans noted'))
    | referred leads new noted' undeclared held refers =>
      obtain ⟨c, hc, rfl, rfl⟩ := explored.copy_of_held undeclared held
      refine free (.referred leads ?_ hc (by simp [State.named, noted']) refers)
      have listed := (met _).mp (Option.isSome_of_eq_some noted')
      rw [split, List.mem_append, List.mem_cons] at listed
      rcases listed with early | rfl | late
      · exact absurd early new
      · exact absurd leads acyclic
      · rw [split]
        exact ((List.singleton_sublist.mpr late).cons_cons key).trans (List.sublist_append_right _ _)
  · cases equal

end Resulted

end Folding

end Jadn.Import

namespace Jadn.Schema

open Import

variable {base : Schema} {packages : List Package} {order : HashOrder} {r : Schema}

/-- An import that succeeds is made up of what its run discovers and of what it copies. -/
theorem explored_of_importPackages
    (plain : ∀ p ∈ packages, ∀ d ∈ p.schema.types, ':' ∉ d.name.toList)
    (h : base.importPackages packages order = .ok r) :
    ∃ types st found copies, (baseTypes (sources base packages)).run {} = .ok (types, st) ∧
      Resulted (sources base packages) (fun x => ':' ∉ x.toList) st r ∧
        Explored (sources base packages) {} st (sources base packages).roots found copies ∧
          Assembled (sources base packages) r st.named found copies := by
  obtain ⟨types, st, followed, tables⟩ := importPackages_eq_ok h
  have naming : Names (sources base packages) fun x => ':' ∉ x.toList := names_of_plain plain
  have result := resulted_of_run naming followed tables
  obtain ⟨found, copies, explored⟩ := baseTypes_explores naming followed
  exact ⟨types, st, found, copies, followed, result, explored, result.assembled naming explored⟩

/-- Each definition of a package that is on no cycle goes by its own name if what has this name in
the result is equal to it, unless something hinders that; and then no copy of it has another
name. -/
theorem importPackages_folds
    (plain : ∀ p ∈ packages, ∀ d ∈ p.schema.types, ':' ∉ d.name.toList)
    (h : base.importPackages packages order = .ok r) :
    ∃ types st found copies, (baseTypes (sources base packages)).run {} = .ok (types, st) ∧
      Assembled (sources base packages) r st.named found copies ∧
        ∀ key ∈ found, ¬ (sources base packages).Cyclic key →
          ¬ Hindrance (sources base packages) r st.named found copies key →
            (sources base packages).holdsEqual r st.named key = true →
              st.named key = key.2 ∧ ∀ c ∈ copies, c.1 = key → c.2.name = key.2 := by
  obtain ⟨types, st, found, copies, run, result, explored, assembled⟩ :=
    explored_of_importPackages plain h
  have naming : Names (sources base packages) fun x => ':' ∉ x.toList := names_of_plain plain
  obtain ⟨followed, outcome, resolves⟩ := exists_resolves (sources base packages) base.types {}
  have succeeds : outcome = .ok (types, st) := resolves.run_eq.symm.trans run
  have same : found = followed :=
    explored.discovers.unique (resolves.discovers succeeds)
  have explained := resolves.explained naming sound_empty
    (show State.met {} = {k | k ∈ []} by simp [State.met_empty])
    (fun _ _ _ => by simp [State.memo]) succeeds
  rw [← same] at explained
  refine ⟨types, st, found, copies, run, assembled, fun key hkey acyclic free equal => ?_⟩
  have named := result.folds explored explained hkey acyclic free equal
  refine ⟨named, fun c hc own => ?_⟩
  rw [(assembled.copied c hc).2, own, named]

def declaring (package : String) (labels : List (String × String)) (types : List TypeDefinition) :
    Schema where
  info := { package := package, namespaces := { packages := labels } }
  types := types
  limits := {}
  extensions := []
  fieldTypes := []
  patterns := []

def chained : Schema :=
  declaring "pkg" [] [wrapping "Node" "next" "Mark", wrapping "Mark" "of" "String"]

/-- A definition is represented by that of the base, whose reference leads to the copy of what it
refers to. -/
theorem importPackages_folds_chained :
    (∀ p ∈ [Package.mk "pkg" chained], ∀ d ∈ p.schema.types, ':' ∉ d.name.toList) ∧
      ∃ r types st found copies, loose.importPackages [⟨"pkg", chained⟩] .entered = .ok r ∧
        r.typeNames = ["Root", "Node", "Mark"] ∧
          (baseTypes (sources loose [⟨"pkg", chained⟩])).run {} = .ok (types, st) ∧
            Assembled (sources loose [⟨"pkg", chained⟩]) r st.named found copies ∧
              ("pkg", "Node") ∈ found ∧ ¬ (sources loose [⟨"pkg", chained⟩]).Cyclic ("pkg", "Node") ∧
                ¬ Hindrance (sources loose [⟨"pkg", chained⟩]) r st.named found copies ("pkg", "Node") ∧
                  (sources loose [⟨"pkg", chained⟩]).holdsEqual r st.named ("pkg", "Node") = true ∧
                    st.named ("pkg", "Node") = "Node" ∧
                      ∀ c ∈ copies, c.1 = ("pkg", "Node") → c.2.name = "Node" := by
  have plain : ∀ p ∈ [Package.mk "pkg" chained], ∀ d ∈ p.schema.types, ':' ∉ d.name.toList := by
    intro p hp d hd
    rw [List.mem_singleton.mp hp] at hd
    rcases List.mem_pair.mp hd with rfl | rfl <;> decide
  have names : (loose.importPackages [⟨"pkg", chained⟩] .entered).toOption.map (·.typeNames) =
      some ["Root", "Node", "Mark"] := by decide +kernel
  obtain ⟨r, imported, names⟩ := Option.map_eq_some_iff.mp names
  have done := Except.toOption_eq_some_iff.mp imported
  obtain ⟨types, st, found, copies, run, assembled, folds⟩ := importPackages_folds plain done
  have checked : ((loose.importPackages [⟨"pkg", chained⟩] .entered).toOption.bind fun r =>
      ((baseTypes (sources loose [⟨"pkg", chained⟩])).run {}).toOption.map fun p =>
        ((sources loose [⟨"pkg", chained⟩]).holdsEqual r p.2.named ("pkg", "Node"),
          p.2.named ("pkg", "Node"),
          (r.get? (p.2.named ("pkg", "Mark"))).map (·.references))) =
      some (true, "Node", some ["String"]) := by decide +kernel
  rw [imported, run] at checked
  obtain ⟨equal, checked⟩ := Prod.mk.inj (Option.some.inj checked)
  obtain ⟨named, referred⟩ := Prod.mk.inj checked
  have start : ∀ k ∈ (sources loose [⟨"pkg", chained⟩]).next ("pkg", "Node"),
      k ∈ [("pkg", "Mark")] := by decide +kernel
  have step : ∀ k ∈ [("pkg", "Mark")], ∀ k' ∈ (sources loose [⟨"pkg", chained⟩]).next k,
      k' ∈ [("pkg", "Mark")] := by decide +kernel
  have reached : ("pkg", "Node") ∈ found :=
    (assembled.reached _).mpr ⟨("pkg", "Node"), by decide +kernel, .refl⟩
  have acyclic : ¬ (sources loose [⟨"pkg", chained⟩]).Cyclic ("pkg", "Node") := by
    intro cyclic
    exact absurd (Sources.LeadsTo.mem cyclic start step) (by decide)
  have free : ¬ Hindrance (sources loose [⟨"pkg", chained⟩]) r st.named found copies
      ("pkg", "Node") := by
    rintro (⟨declared, refers, qualified⟩ | ⟨copied, stands, -, -⟩ | ⟨leads, -, copied, stands, refers⟩)
    · cases declared
      cases List.mem_singleton.mp refers
      exact absurd qualified (by decide)
    · have undeclared := assembled.get?_base_of_copied copied
      rw [stands] at undeclared
      cases undeclared
    · cases List.mem_singleton.mp (leads.mem start step)
      rw [← stands, assembled.get?_of_copied copied, Option.map_some] at referred
      have references := Option.some.inj referred
      rw [named, references] at refers
      exact absurd refers (by decide)
  exact ⟨plain, r, types, st, found, copies, done, names, run, assembled, reached, acyclic, free, equal,
    folds _ reached acyclic free equal⟩

/-- A definition on no cycle goes by another name than its own one although what has this name is
equal to it. -/
def KeepsApart (base : Schema) (packages : List Package) : Prop :=
  ∃ order r types st found copies, base.importPackages packages order = .ok r ∧
    (baseTypes (sources base packages)).run {} = .ok (types, st) ∧
      Assembled (sources base packages) r st.named found copies ∧
        ∃ key ∈ found, ¬ (sources base packages).Cyclic key ∧
          (sources base packages).holdsEqual r st.named key = true ∧ st.named key ≠ key.2

theorem keepsApart_of_run (order : HashOrder)
    (plain : ∀ p ∈ packages, ∀ d ∈ p.schema.types, ':' ∉ d.name.toList)
    (key : String × String) (after : List (String × String))
    (reached : (sources base packages).Reached key)
    (start : ∀ k ∈ (sources base packages).next key, k ∈ after)
    (step : ∀ k ∈ after, ∀ k' ∈ (sources base packages).next k, k' ∈ after) (apart : key ∉ after)
    (run : ((base.importPackages packages order).toOption.bind fun r =>
      ((baseTypes (sources base packages)).run {}).toOption.map fun p =>
        ((sources base packages).holdsEqual r p.2.named key, p.2.named key == key.2)) =
          some (true, false)) : base.KeepsApart packages := by
  obtain ⟨r, imported, checked⟩ := Option.bind_eq_some_iff.mp run
  have done := Except.toOption_eq_some_iff.mp imported
  obtain ⟨types, st, found, copies, run, -, -, assembled⟩ := explored_of_importPackages plain done
  rw [run] at checked
  obtain ⟨equal, named⟩ := Prod.mk.inj (Option.some.inj checked)
  refine ⟨order, r, types, st, found, copies, done, run, assembled, key,
    (assembled.reached key).mpr reached,
    fun cyclic => apart (cyclic.mem start step), equal, by simpa using named⟩

def doubled : Schema :=
  declaring "base" [("p", "pkg")] [wrapping "Root" "start" "p:Node", wrapping "Node" "next" "Mark",
    wrapping "P-Node" "next" "Mark"]

def returning : Schema :=
  declaring "pkg" [] [wrapping "Node" "next" "Mark", wrapping "Mark" "of" "P-Node",
    wrapping "P-Node" "next" "Mark"]

def across : Schema :=
  declaring "base" [("e", "ends"), ("o", "outer")]
    [wrapping "End" "start" "e:Z-Node", wrapping "Root" "start" "o:Node"]

/-- A definition that refers to one of the same name in another package, and this one to one that
has the name that it would be given. -/
def between : List Package :=
  [⟨"outer", pointing "Node" "z:Node" [("z", "inner")]⟩,
    ⟨"inner", pointing "Node" "e:Z-Node" [("e", "ends")]⟩, ⟨"ends", pointing "Z-Node" "Z-Node" []⟩]

/-- A definition keeps the name that it is given if something imported meanwhile refers to this
name, and so it does if what has its own name is still being followed. -/
theorem importPackages_keepsApart :
    (∀ s ∈ [doubled, returning, across] ++ between.map Package.schema,
      build s.info s.types s.limits .entered = .ok s) ∧
        doubled.KeepsApart [⟨"pkg", returning⟩] ∧ across.KeepsApart between := by
  refine ⟨?_, ?_, ?_⟩
  · intro s hs
    simp only [between, List.map_cons, List.map_nil, List.cons_append, List.nil_append,
      List.mem_cons, List.not_mem_nil, or_false] at hs
    rcases hs with rfl | rfl | rfl | rfl | rfl | rfl <;> rfl
  · refine keepsApart_of_run .entered ?_ ("pkg", "Node") [("pkg", "Mark"), ("pkg", "P-Node")]
      ⟨("pkg", "Node"), by decide +kernel, .refl⟩ (by decide +kernel) (by decide +kernel)
      (by decide) (by decide +kernel)
    decide +kernel
  · refine keepsApart_of_run .entered ?_ ("inner", "Node") [("ends", "Z-Node")]
      ⟨("outer", "Node"), by decide +kernel, .single (by decide +kernel)⟩ (by decide +kernel)
      (by decide +kernel) (by decide) (by decide +kernel)
    decide +kernel

end Jadn.Schema
