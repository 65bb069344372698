import Jadn.Proofs.Import.Result
import Jadn.Proofs.Unicode.Uppercase

/-!
Where the references of imported definitions lead.

They lead to base types and to definitions of the result, with one exception: a field may have
a marked type whose name was given up in the meantime. That takes a definition of the base
that refers to what nothing declares: otherwise a definition is only dropped for another one
if nothing was imported for the sake of its references.
-/

set_option autoImplicit false

namespace Jadn.Import

/-- Finished definitions refer to what is known, the base aside to its qualified references. -/
def Tight (src : Sources) (st : State) : Prop :=
  ∀ name e, st.held src.base name = some e → ∀ x ∈ e.referredNames,
    ':' ∈ x.toList ∨ (BaseType.ofName? x).isSome ∨ st.isUsed src.base x = true

/-- What an importer does to a state with nothing unknown in it: it keeps it so, and to answer
with a known name it imports nothing. -/
def ImportsTightly (src : Sources) (Good : String → Prop) (importer : Importer) : Prop :=
  ∀ package label name chain st result st', src.Label label package → Sound src Good st → Tight src st →
    (importer package label name chain).run st = .ok (result, st') →
      Tight src st' ∧ (st.isUsed src.base result = true → st'.imported = st.imported)

section Following

variable {src : Sources} {Good : String → Prop}

theorem follow_tight {importer : Importer} (tightly : ImportsTightly src Good importer)
    {schema : Schema} {package label x y : String} {chain : List String} {st st' : State}
    (found : src.packages.lookup package = some schema) (labelled : src.Label label package)
    (sound : Sound src Good st) (tight : Tight src st)
    (h : ((Site.within schema package label).localName src importer chain x).run st = .ok (y, st')) :
    Tight src st' ∧ ((BaseType.ofName? x).isSome ∨ st.isUsed src.base y = true →
      st'.imported = st.imported) := by
  rcases localName_within_eq_ok found labelled h with ⟨-, rfl, rfl⟩ | ⟨key, inner, leads, h⟩
  · exact ⟨tight, fun _ => rfl⟩
  · obtain ⟨labelled, imported⟩ := h
    obtain ⟨tight', kept⟩ := tightly _ _ _ _ _ _ _ labelled sound tight imported
    refine ⟨tight', fun known => kept ?_⟩
    rcases known with base | used
    · simp [Sources.target?, base] at leads
    · exact used

theorem followAll_tight {importer : Importer} (imports : Imports src Good importer)
    (tightly : ImportsTightly src Good importer)
    {schema : Schema} {package label : String} {chain xs ys : List String} {st st' : State}
    (found : src.packages.lookup package = some schema) (labelled : src.Label label package)
    (sound : Sound src Good st) (tight : Tight src st)
    (h : (xs.mapM ((Site.within schema package label).localName src importer chain)).run st = .ok (ys, st')) :
    Tight src st' ∧ ((∀ x ∈ xs, (BaseType.ofName? x).isSome ∨
      st.isUsed src.base (st'.localName src package x) = true) → st'.imported = st.imported) := by
  induction xs generalizing st ys with
  | nil =>
    cases h
    exact ⟨tight, fun _ => rfl⟩
  | cons x xs ih =>
    obtain ⟨y, st₁, zs, first, others, rfl⟩ := run_mapM_cons_eq_ok_iff.mp h
    obtain ⟨sound₁, rfl, leads, run₁⟩ := follow_run imports found labelled sound first
    obtain ⟨tight₁, kept₁⟩ := follow_tight tightly found labelled sound tight first
    obtain ⟨tight₂, kept₂⟩ := ih sound₁ tight₁ others
    obtain ⟨-, -, -, run₂⟩ := followAll_run imports found labelled sound₁ others
    refine ⟨tight₂, fun known => ?_⟩
    have same₁ : st₁.imported = st.imported := by
      apply kept₁
      rw [← (run₂.grows.leads leads).2]
      exact known x List.mem_cons_self
    rw [← same₁]
    apply kept₂
    intro z hz
    rw [State.isUsed_congr same₁]
    exact known z (List.mem_cons_of_mem _ hz)

end Following

namespace Round

variable {src : Sources} {Good : String → Prop} {st st₁ st₂ st' : State} {key : String × String}
  {source : TypeDefinition} {provisional result : String}
  (round : Round src Good st st₁ st₂ key source provisional result st')
include round

theorem held₁ {name : String} {e : TypeDefinition} (h : st₁.held src.base name = some e) :
    st.held src.base name = some e := by
  rw [State.held_eq_some_iff] at h ⊢
  refine h.imp_right fun ⟨undeclared, found⟩ => ⟨undeclared, ?_⟩
  rw [round.imported₁, List.lookup_append, Option.or_eq_some_iff] at found
  rcases found with before | ⟨-, reserved⟩
  · exact before
  · have entry := mem_of_lookup reserved
    split at entry <;> simp at entry

theorem tight₁ (tight : Tight src st) : Tight src st₁ := by
  intro name e held x hx
  refine (tight name e (round.held₁ held) x hx).imp_right (Or.imp_right fun used => ?_)
  exact round.isUsed₁_iff.mpr (Or.inl used)

theorem held_result (known : st.isUsed src.base result = true) :
    ∃ e, st.held src.base result = some e ∧
      (e == ((source.replaced (st₂.localName src key.1)).renamed provisional).renamed result) =
        true := by
  obtain ⟨e, existing, same⟩ := round.ended.existing
  refine ⟨e, ?_, same⟩
  rw [State.held_eq_some_iff] at existing ⊢
  refine existing.imp_right fun ⟨undeclared, found⟩ => ⟨undeclared, ?_⟩
  obtain ⟨new, grown⟩ := round.ended.grows
  have listed : st.imported.contains result = true := by
    simpa [State.isUsed, undeclared] using known
  obtain ⟨o, before⟩ := Option.isSome_iff_exists.mp listed
  rw [grown, List.lookup_append, before] at found
  rw [before]
  simpa using found

/-- If the answer was known, then so was all that the definition refers to. -/
theorem known_of_known (naming : Naming src Good)
    (proper : ∀ x, Good x → ':' ∉ x.toList ∧ BaseType.ofName? x = none) (tight : Tight src st)
    (known : st.isUsed src.base result = true) {x : String} (hx : x ∈ source.referredNames) :
    (BaseType.ofName? x).isSome ∨ st₁.isUsed src.base (st₂.localName src key.1 x) = true := by
  rcases round.localName_cases hx with ⟨base, -⟩ | ⟨good, -⟩
  · exact Or.inl base
  · right
    obtain ⟨e, existing, same⟩ := round.held_result known
    have member : st₂.localName src key.1 x ∈ e.referredNames := by
      rw [round.referredNames_of_beq naming.unmarked same]
      exact List.mem_map_of_mem hx
    obtain ⟨unqualified, other⟩ := proper _ good
    rcases tight result e existing _ member with qualified | base | used
    · exact absurd qualified unqualified
    · simp [other] at base
    · exact round.isUsed₁_iff.mpr (Or.inl used)

/-- Nothing stays behind of an import that is answered with a known name. -/
theorem imported_eq_of_known (known : st.isUsed src.base result = true)
    (same : st₂.imported = st₁.imported) : st'.imported = st.imported := by
  obtain ⟨new, grown⟩ := round.ended.grows
  have none : new = [] := by
    cases new with
    | nil => rfl
    | cons entry new =>
      exfalso
      obtain ⟨name, e⟩ := entry
      have entry : (name, some e) ∈ st'.imported := by simp [grown, finished]
      rcases round.ended.entries name e entry with before | ⟨-, -, rfl, free⟩
      · rw [same, round.imported₁] at before
        rcases List.mem_append.mp before with older | reserved
        · have distinct := round.soundAfter.distinct
          rw [grown, Dict.keys, List.map_append] at distinct
          exact (List.nodup_append.mp distinct).2.2 name (List.mem_map_of_mem older) name
            (by simp [finished]) rfl
        · split at reserved <;> simp at reserved
      · rw [known] at free
        cases free
  rw [grown, none]
  simp [finished]

theorem tightAfter (naming : Naming src Good)
    (proper : ∀ x, Good x → ':' ∉ x.toList ∧ BaseType.ofName? x = none) (tight : Tight src st)
    (tight₂ : Tight src st₂)
    (kept : (∀ x ∈ source.referredNames, (BaseType.ofName? x).isSome ∨
      st₁.isUsed src.base (st₂.localName src key.1 x) = true) → st₂.imported = st₁.imported) :
    Tight src st' ∧ (st.isUsed src.base result = true → st'.imported = st.imported) := by
  have unchanged : st.isUsed src.base result = true → st'.imported = st.imported := by
    intro known
    exact round.imported_eq_of_known known
      (kept fun x hx => round.known_of_known naming proper tight known hx)
  refine ⟨?_, unchanged⟩
  intro name e held x hx
  rcases State.held_eq_some_iff.mp held with declared | ⟨-, found⟩
  · have before : st.held src.base name = some e := State.held_eq_some_iff.mpr (Or.inl declared)
    exact (tight name e before x hx).imp_right (Or.imp_right round.grows.isUsed)
  · have entry := mem_of_lookup found
    have undeclared := round.soundAfter.apart name (List.mem_map_of_mem entry)
    rcases round.ended.entries name e entry with before | ⟨rfl, rfl, -⟩
    · have held₂ : st₂.held src.base name = some e :=
        State.held_eq_some_iff.mpr (Or.inr ⟨undeclared, lookup_of_mem round.sound₂.distinct before⟩)
      rcases tight₂ name e held₂ x hx with qualified | base | used
      · exact Or.inl qualified
      · exact Or.inr (Or.inl base)
      · rcases round.ended.isUsed x used with used | givenUp
        · exact Or.inr (Or.inr used)
        · -- The definition was dropped for one that was known, so this one is not new.
          have known : st.isUsed src.base result = true := by
            rw [givenUp.result_eq]
            exact (round.renamed (givenUp.name_eq ▸ givenUp.apart)).1
          rw [unchanged known] at found
          have held₀ : st.held src.base name = some e :=
            State.held_eq_some_iff.mpr (Or.inr ⟨undeclared, found⟩)
          rcases tight name e held₀ x hx with qualified | base | used
          · exact Or.inl qualified
          · exact Or.inr (Or.inl base)
          · rw [givenUp.free] at used
            cases used
    · rw [round.referredNames_of_beq naming.unmarked (BEq.refl _)] at hx
      obtain ⟨y, hy, rfl⟩ := List.mem_map.mp hx
      exact Or.inr (round.isUsed_localName_of_kept (List.mem_map_of_mem entry) hy)

end Round

section Importing

variable {src : Sources} {Good : String → Prop} (naming : Naming src Good)
  (proper : ∀ x, Good x → ':' ∉ x.toList ∧ BaseType.ofName? x = none)
include naming proper

theorem importName_tight (fuel : Nat) : ImportsTightly src Good (importName src fuel) := by
  induction fuel with
  | zero =>
    intro package label name chain st result st' _ _ _ h
    cases h
  | succ fuel ih =>
    intro package label name chain st result st' labelled sound tight h
    rcases importName_eq_ok h with ⟨-, rfl⟩ | followed
    · exact ⟨tight, fun _ => rfl⟩
    · have imports := importName_run naming.toNames fuel
      obtain ⟨st₁, st₂, source, provisional, schema, names, round, found, run⟩ :=
        round_of_followed naming.toNames imports labelled sound followed
      obtain ⟨tight₂, kept⟩ :=
        followAll_tight imports ih found labelled round.sound₁ (round.tight₁ tight) run
      exact round.tightAfter naming proper tight tight₂ kept

theorem importName_keepsTight (fuel : Nat) :
    Keeps src (fun s => Sound src Good s ∧ Tight src s) (importName src fuel) := by
  rintro package label name chain st result st' labelled ⟨sound, tight⟩ h
  exact ⟨(importName_run naming.toNames fuel _ _ _ _ _ _ _ labelled sound h).1,
    (importName_tight naming proper fuel _ _ _ _ _ _ _ labelled sound tight h).1⟩

end Importing

section Names

theorem collisionName_toList (label name : String) :
    (collisionName label name).toList =
      (Unicode.capitalize label).toList ++ '-' :: name.toList := by
  simp [collisionName]

theorem unmarked_collisionName {label name : String} (unmarked : Unmarked label) :
    Unmarked (collisionName label name) := by
  rw [unmarked_iff] at unmarked ⊢
  have first := Unicode.head?_capitalize_ne unmarked
  rw [collisionName_toList]
  cases text : (Unicode.capitalize label).toList with
  | nil => simp
  | cons c cs => simpa [text] using first

theorem not_mem_collisionName {label name : String} (apart : ':' ∉ label.toList)
    (plain : ':' ∉ name.toList) : ':' ∉ (collisionName label name).toList := by
  simp [collisionName_toList, Unicode.not_mem_capitalize apart, plain]

theorem ofName?_collisionName (label name : String) :
    BaseType.ofName? (collisionName label name) = none :=
  ofName?_of_hyphen (by simp [collisionName_toList])

end Names

section Sources

variable {base : Schema} {packages : List Package}

def Labels (base : Schema) (packages : List Package) (label : String) : Prop :=
  (base.info.namespaces.package? label).isSome ∨
    ∃ p ∈ packages, (p.schema.info.namespaces.package? label).isSome

theorem mem_of_lookup_sources {package : String} {schema : Schema}
    (h : (sources base packages).packages.lookup package = some schema) :
    ⟨package, schema⟩ ∈ packages := by
  obtain ⟨p, member, same⟩ := List.mem_map.mp (Dict.mem_of_lookup_ofList h)
  cases same
  exact member

theorem mem_of_definition? {key : String × String} {d : TypeDefinition}
    (h : (sources base packages).definition? key = some d) :
    ∃ p ∈ packages, d ∈ p.schema.types ∧ d.name = key.2 := by
  obtain ⟨schema, found, declared⟩ := Option.bind_eq_some_iff.mp h
  exact ⟨_, mem_of_lookup_sources found, mem_of_declared? declared⟩

theorem labels_of_label {label package : String}
    (h : (sources base packages).Label label package) :
    ':' ∉ label.toList ∧ Labels base packages label := by
  refine ⟨h.1, h.2.imp (fun known => ?_) ?_⟩
  · exact Option.isSome_of_eq_some known
  · rintro ⟨name, schema, found, known⟩
    exact ⟨_, mem_of_lookup_sources found, Option.isSome_of_eq_some known⟩

theorem names_of {Good : String → Prop}
    (declared : ∀ p ∈ packages, ∀ d ∈ p.schema.types, Good d.name)
    (renamed : ∀ label name, ':' ∉ label.toList → Labels base packages label → Good name →
      Good (collisionName label name)) : Names (sources base packages) Good := by
  have own : ∀ key d, (sources base packages).definition? key = some d → Good key.2 := by
    intro key d found
    obtain ⟨p, hp, hd, named⟩ := mem_of_definition? found
    exact named ▸ declared p hp d hd
  refine ⟨own, ?_⟩
  rintro key name ⟨label, d, labelled, found, rfl⟩
  obtain ⟨apart, labels⟩ := labels_of_label labelled
  exact renamed label key.2 apart labels (own key d found)

theorem names_of_plain (plain : ∀ p ∈ packages, ∀ d ∈ p.schema.types, ':' ∉ d.name.toList) :
    Names (sources base packages) fun x => ':' ∉ x.toList :=
  names_of plain fun _ _ apart _ good => not_mem_collisionName apart good

/-- A name that is not taken for a qualified reference, a base type or a marked reference. -/
structure ProperName (x : String) : Prop where
  plain : ':' ∉ x.toList
  other : BaseType.ofName? x = none
  unmarked : Unmarked x

theorem naming_proper (declared : ∀ p ∈ packages, ∀ d ∈ p.schema.types, ProperName d.name)
    (labels : ∀ label, Labels base packages label → Unmarked label) :
    Naming (sources base packages) ProperName := by
  refine ⟨names_of declared fun label name apart known good => ?_, fun x good => good.unmarked⟩
  exact ⟨not_mem_collisionName apart good.plain, ofName?_collisionName label name,
    unmarked_collisionName (labels label known)⟩

end Sources

end Jadn.Import

namespace Jadn.Schema

open Import

/-- Every reference is qualified, names a base type or names a definition. -/
def Complete (s : Schema) : Prop :=
  ∀ d ∈ s.types, ∀ x ∈ d.referredNames,
    ':' ∈ x.toList ∨ (BaseType.ofName? x).isSome ∨ x ∈ s.typeNames

theorem Complete.tight_empty {base : Schema} (complete : base.Complete) {packages : List Package} :
    Tight (sources base packages) {} := by
  intro name e held x hx
  have declared : base.get? name = some e := by simpa [State.held, sources] using held
  rcases complete e (mem_of_declared? declared).1 x hx with qualified | known | own
  · exact Or.inl qualified
  · exact Or.inr (Or.inl known)
  · refine Or.inr (Or.inr ?_)
    rw [State.isUsed_iff]
    exact Or.inl (declared?_isSome_iff.mpr own)

/-- An imported definition refers to base types and to definitions of the result, except that
the marked type of a field may be a name that was given up for one of the result. That takes a
base that is not complete or a definition with the name of a base type. -/
theorem importPackages_references {base : Schema} {packages : List Package} {order : HashOrder}
    {r : Schema}
    (plain : ∀ p ∈ packages, ∀ d ∈ p.schema.types, ':' ∉ d.name.toList ∧ Unmarked d.name)
    (labels : ∀ label, Labels base packages label → Unmarked label)
    (h : base.importPackages packages order = .ok r) :
    ∀ d ∈ r.types.drop base.types.length, ∀ x ∈ d.referredNames,
      (BaseType.ofName? x).isSome ∨ x ∈ r.typeNames ∨
        ((∃ f ∈ d.fields, f.typeRef = markedReference x) ∧
          (∃ label name, x = collisionName label name ∧ name ∈ r.typeNames) ∧
          (¬ base.Complete ∨
            ∃ p ∈ packages, ∃ e ∈ p.schema.types, (BaseType.ofName? e.name).isSome)) := by
  obtain ⟨types, st, followed, tables⟩ := importPackages_eq_ok h
  have naming : Naming (sources base packages) fun x => ':' ∉ x.toList ∧ Unmarked x := by
    refine ⟨names_of plain fun label name apart known good => ?_, fun x good => good.2⟩
    exact ⟨not_mem_collisionName apart good.1, unmarked_collisionName (labels label known)⟩
  have result := resulted_of_run naming.toNames followed tables
  intro d hd x hx
  have entry := result.mem_drop_iff.mp hd
  rcases result.run.closed naming.unmarked d.name d entry (by simp [Dict.keys]) x hx with
    known | used | lost
  · exact Or.inl known
  · exact Or.inr (Or.inl (result.mem_typeNames_of_isUsed used))
  · obtain ⟨marked, key, ⟨label, source, labelled, declared, rfl⟩, existing⟩ := lost
    by_cases proper : base.Complete ∧
        ∀ p ∈ packages, ∀ e ∈ p.schema.types, BaseType.ofName? e.name = none
    · obtain ⟨complete, other⟩ := proper
      have naming : Naming (sources base packages) ProperName := by
        refine naming_proper (fun p hp d hd => ?_) labels
        exact ⟨(plain p hp d hd).1, other p hp d hd, (plain p hp d hd).2⟩
      have held : st.held (sources base packages).base d.name = some d :=
        State.held_eq_some_iff.mpr (Or.inr ⟨result.sound.apart _ (List.mem_map_of_mem entry),
          lookup_of_mem result.sound.distinct entry⟩)
      have tight := (baseTypes_keeps
        (importName_keepsTight naming fun x good => ⟨good.plain, good.other⟩)
        ⟨sound_empty, complete.tight_empty⟩ followed).2
      have unqualified : ':' ∉ (collisionName label key.2).toList :=
        not_mem_collisionName labelled.1 (naming.declared key source declared).plain
      rcases tight d.name d held _ hx with qualified | known | used
      · exact absurd qualified unqualified
      · exact Or.inl known
      · exact Or.inr (Or.inl (result.mem_typeNames_of_isUsed used))
    · refine Or.inr (Or.inr ⟨marked, ⟨label, key.2, rfl, ?_⟩, ?_⟩)
      · obtain ⟨e, found⟩ := Option.isSome_iff_exists.mp existing
        exact result.mem_typeNames_of_isUsed (State.isUsed_of_held found)
      · rcases not_and_or.mp proper with loose | based
        · exact Or.inl loose
        · right
          push Not at based
          obtain ⟨p, hp, e, he, known⟩ := based
          exact ⟨p, hp, e, he, Option.isSome_iff_ne_none.mpr known⟩

def wrapping (name field typeRef : String) : TypeDefinition where
  name := name
  options := {}
  description := ""
  kind := .record [.new 1 field typeRef]

def linked : Schema where
  info := { package := "pkg" }
  types := [wrapping "Node" "next" "Mark", wrapping "Mark" "of" "#Node"]
  limits := {}
  extensions := [("#Node", {
    name := "Enum-Node"
    options := {}
    description := "Derived Enumerated from Node"
    kind := .enumerated [⟨1, "next", ""⟩] })]
  fieldTypes := []
  patterns := []

theorem labels_linked {base : Schema} (known : base.info.namespaces.packages = [("p", "pkg")])
    {label : String} (h : Labels base [⟨"pkg", linked⟩] label) : label = "p" := by
  rcases h with own | ⟨p, hp, own⟩
  · obtain ⟨package, entry⟩ := Option.isSome_iff_exists.mp own
    have member : (label, package) ∈ base.info.namespaces.packages := mem_of_lookup entry
    rw [known, List.mem_singleton] at member
    exact congrArg Prod.fst member
  · rw [List.mem_singleton.mp hp] at own
    cases own

def loose : Schema where
  info := { package := "base", namespaces := { packages := [("p", "pkg")] } }
  types := [wrapping "Root" "start" "p:Node", wrapping "Node" "next" "Mark"]
  limits := {}
  extensions := []
  fieldTypes := []
  patterns := []

/-- The import of the second definition refers to the first one under a name that is given up
for the one of the base. -/
theorem importPackages_loose :
    build linked.info linked.types linked.limits .entered = .ok linked ∧
      build loose.info loose.types loose.limits .entered = .ok loose ∧
      ∃ r, loose.importPackages [⟨"pkg", linked⟩] .entered = .ok r ∧
        r.typeNames = ["Root", "Node", "Mark"] ∧
        (∃ d ∈ r.types.drop loose.types.length, "P-Node" ∈ d.referredNames) ∧
        ¬ loose.Complete := by
  have plain : ∀ p ∈ [Package.mk "pkg" linked], ∀ d ∈ p.schema.types,
      ':' ∉ d.name.toList ∧ Unmarked d.name := by
    intro p hp d hd
    rw [List.mem_singleton.mp hp] at hd
    rcases List.mem_pair.mp hd with rfl | rfl <;> exact ⟨by decide, rfl⟩
  have labels : ∀ label, Labels loose [⟨"pkg", linked⟩] label → Unmarked label := by
    intro label known
    rw [labels_linked rfl known]
    rfl
  have names : (loose.importPackages [⟨"pkg", linked⟩] .entered).toOption.map
      (fun r => (r.typeNames, (r.types.drop 2).map (·.referredNames))) =
        some (["Root", "Node", "Mark"], [["P-Node"]]) := by decide +kernel
  obtain ⟨r, imported, names⟩ := Option.map_eq_some_iff.mp names
  obtain ⟨typeNames, references⟩ := Prod.mk.inj names
  have done := Except.toOption_eq_some_iff.mp imported
  obtain ⟨d, hd, refers⟩ : ∃ d ∈ r.types.drop 2, d.referredNames = ["P-Node"] :=
    List.mem_map.mp (references ▸ List.mem_singleton_self _)
  have member : "P-Node" ∈ d.referredNames := by simp [refers]
  refine ⟨rfl, rfl, r, done, typeNames, ⟨d, hd, member⟩, ?_⟩
  rcases importPackages_references plain labels done d hd "P-Node" member with
    base | declared | ⟨-, -, loose | ⟨p, hp, e, he, base⟩⟩
  · cases base
  · simp [typeNames] at declared
  · exact loose
  · rw [List.mem_singleton.mp hp] at he
    rcases List.mem_pair.mp he with rfl | rfl <;> cases base

end Jadn.Schema
