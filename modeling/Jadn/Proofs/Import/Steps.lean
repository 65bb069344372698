import Jadn.Import
import Jadn.Proofs.Dict
import Jadn.Proofs.Outcome
import Jadn.Proofs.References

/-!
The steps of the importer: what a successful import of a name did, one definition at a time.

A definition met before is answered with its local name. Any other one is located and entered
under a provisional name, its references are followed in turn, and then its import ends in one
of three ways.
-/

set_option autoImplicit false

namespace Jadn.Import

theorem run_mapM_cons_eq_ok_iff {α β : Type} {f : α → Resolver β} {x : α} {xs : List α}
    {ys : List β} {st st' : State} :
    ((x :: xs).mapM f).run st = .ok (ys, st') ↔ ∃ y st₁ zs, (f x).run st = .ok (y, st₁) ∧
      (xs.mapM f).run st₁ = .ok (zs, st') ∧ ys = y :: zs := by
  simp only [List.mapM_cons, StateT.run_bind, Except.bind_eq_ok_iff, Prod.exists]
  constructor
  · rintro ⟨y, st₁, first, zs, st₂, others, result⟩
    obtain ⟨rfl, rfl⟩ := Prod.mk.inj (Except.ok.inj result)
    exact ⟨y, st₁, zs, first, others, rfl⟩
  · rintro ⟨y, st₁, zs, first, others, rfl⟩
    exact ⟨y, st₁, first, zs, st', others, rfl⟩

namespace State

def memo (st : State) (key : String × String) : Option String := st.localNames.lookup key

def held (st : State) (base : Schema) (name : String) : Option TypeDefinition :=
  (base.get? name).or (st.imported.lookup name).join

theorem holdsSame_iff {st : State} {base : Schema} {name : String} {d : TypeDefinition} :
    st.holdsSame base name d = true ↔
      ∃ e, st.held base name = some e ∧ (e == d.renamed name) = true := by
  unfold holdsSame held
  rw [Option.orElse_eq_orElse, Option.orElse_eq_or]
  split
  · next e found => simp [found]
  · next none => simp [none]

end State

/-- How the import of a definition ends whose references were followed under a provisional
name: it is dropped for an equal definition of its own name, it is kept, or the provisional
name is that of an equal definition. -/
inductive Ending (base : Schema) (key : String × String) (provisional : String) (isFresh : Bool)
    (start : Nat) (d : TypeDefinition) (st : State) : String → State → Prop where
  | dropped (unreferred : st.refersTo start provisional = false)
      (same : st.holdsSame base key.2 d = true) :
      Ending base key provisional isFresh start d st key.2
        ((if isFresh then st.eraseImported provisional else st).setLocalName key key.2)
  | kept (fresh : isFresh = true) :
      Ending base key provisional isFresh start d st provisional
        (st.setImported provisional (some d))
  | found (taken : isFresh = false) (same : st.holdsSame base provisional d = true) :
      Ending base key provisional isFresh start d st provisional (st.setLocalName key provisional)

theorem ending_of_settle {src : Sources} {package name provisional : String} {isFresh : Bool}
    {start : Nat} {d : TypeDefinition} {st st' : State} {result : String}
    (h : (settle src package name provisional isFresh start d).run st = .ok (result, st')) :
    Ending src.base (package, name) provisional isFresh start d st result st' := by
  simp only [settle, StateT.run_bind, StateT.run_get, pure_bind] at h
  split at h
  · next ends =>
    simp only [Bool.and_eq_true, Bool.not_eq_true'] at ends
    cases h
    exact .dropped ends.1 ends.2
  · split at h
    · next fresh =>
      cases h
      exact .kept fresh
    · next taken =>
      split at h
      · next same =>
        cases h
        exact .found (by simpa using taken) same
      · cases h

/-- The package and the name that a reference within a package leads to; base types lead
nowhere. -/
def Sources.target? (src : Sources) (package reference : String) : Option (String × String) :=
  if (BaseType.ofName? reference).isSome then none
  else match Name.splitNamespace reference with
  | (some label, name) =>
    ((src.packages.lookup package).bind (·.info.namespaces.package? label)).map (·, name)
  | (none, name) => some (package, name)

def Sources.Label (src : Sources) (label package : String) : Prop :=
  ':' ∉ label.toList ∧ (src.base.info.namespaces.package? label = some package ∨
    ∃ name schema, src.packages.lookup name = some schema ∧
      schema.info.namespaces.package? label = some package)

def Sources.definition? (src : Sources) (key : String × String) : Option TypeDefinition :=
  (src.packages.lookup key.1).bind (·.get? key.2)

def Sources.Renames (src : Sources) (key : String × String) (name : String) : Prop :=
  ∃ label d, src.Label label key.1 ∧ src.definition? key = some d ∧
    name = collisionName label key.2

/-- A name that may stand for a definition: its own one, or one that it would be renamed to. -/
def Sources.Named (src : Sources) (key : String × String) (name : String) : Prop :=
  (src.definition? key).isSome ∧ (name = key.2 ∨ src.Renames key name)

theorem visit_eq_ok {src : Sources} {package : String} {st st' : State}
    (h : (visit src package).run st = .ok ((), st')) :
    st'.localNames = st.localNames ∧ st'.imported = st.imported := by
  simp only [visit, StateT.run_bind, StateT.run_get, pure_bind] at h
  split at h
  · cases h
    exact ⟨rfl, rfl⟩
  · simp only [StateT.run_bind, StateT.run_set, pure_bind] at h
    split at h
    · cases h
      exact ⟨rfl, rfl⟩
    · cases h

theorem locate_eq_ok {src : Sources} {package label name : String} {chain : List String}
    {st st' : State} {schema : Schema} {d : TypeDefinition}
    (h : (locate src package label name chain).run st = .ok ((schema, d), st')) :
    src.packages.lookup package = some schema ∧ schema.get? name = some d ∧
      st'.localNames = st.localNames ∧ st'.imported = st.imported := by
  unfold locate at h
  split at h
  · next s found =>
    rw [StateT.run_bind, Except.bind_eq_ok_iff] at h
    obtain ⟨⟨⟨⟩, visited⟩, visit, h⟩ := h
    have kept := visit_eq_ok visit
    split at h
    · next e declared =>
      cases h
      exact ⟨found, declared, kept⟩
    · cases h
  · cases h

theorem splitNamespace_eq_some {reference label name : String}
    (h : Name.splitNamespace reference = (some label, name)) :
    reference = Name.qualify label name ∧ ':' ∉ label.toList := by
  unfold Name.splitNamespace at h
  split at h
  · next found =>
    cases h
    obtain ⟨⟨before, after⟩, cut, parts⟩ := Option.map_eq_some_iff.mp found
    obtain ⟨text, apart⟩ := Text.cutList?_eq_some cut
    cases parts
    refine ⟨?_, by simpa using apart⟩
    apply String.toList_inj.mp
    simp [Name.qualify, text]
  · cases h

theorem splitNamespace_eq_none {reference name : String}
    (h : Name.splitNamespace reference = (none, name)) :
    name = reference ∧ ':' ∉ reference.toList := by
  unfold Name.splitNamespace at h
  split at h
  · cases h
  · next none =>
    cases h
    exact ⟨rfl, Text.cutList?_eq_none_iff.mp (Option.map_eq_none_iff.mp none)⟩

section Requests

variable {src : Sources} {schema : Schema} {package label x : String}

/-- What a reference within a package asks for is what it leads to, under a label of the package or
under that by which the package was reached. -/
theorem target?_of_request {package' label' name' : String}
    (found : src.packages.lookup package = some schema)
    (request : (Site.within schema package label).request src x = .definition package' label' name') :
    src.target? package x = some (package', name') ∧
      (src.Label label package → src.Label label' package') := by
  change requestWithin schema package label x = _ at request
  unfold requestWithin at request
  unfold Sources.target?
  split at request
  · cases request
  · next defined =>
    rw [if_neg defined, found]
    cases parts : Name.splitNamespace x with
    | mk inner? name =>
      rw [parts] at request
      cases inner? with
      | none =>
        cases request
        exact ⟨rfl, id⟩
      | some inner =>
        cases known : schema.info.namespaces.package? inner with
        | none =>
          simp only [known] at request
          cases request
        | some target =>
          simp only [known] at request
          cases request
          refine ⟨congrArg (Option.map (·, name')) known, fun _ => ?_⟩
          exact ⟨(splitNamespace_eq_some parts).2, Or.inr ⟨package, schema, found, known⟩⟩

theorem baseType_of_request
    (request : (Site.within schema package label).request src x = .nothing) :
    (BaseType.ofName? x).isSome := by
  change requestWithin schema package label x = _ at request
  unfold requestWithin at request
  split at request
  · next base => exact base
  · split at request
    · split at request <;> cases request
    · cases request

theorem localName_within_eq_ok {importer : Importer} {y : String} {chain : List String}
    {st st' : State} (found : src.packages.lookup package = some schema)
    (labelled : src.Label label package)
    (h : ((Site.within schema package label).localName src importer chain x).run st =
      .ok (y, st')) :
    ((BaseType.ofName? x).isSome ∧ y = x ∧ st' = st) ∨
      ∃ key inner, src.target? package x = some key ∧ src.Label inner key.1 ∧
        (importer key.1 inner key.2 (chain ++ [x])).run st = .ok (y, st') := by
  rw [Site.localName] at h
  cases request : (Site.within schema package label).request src x with
  | nothing =>
    rw [request] at h
    cases h
    exact Or.inl ⟨baseType_of_request request, rfl, rfl⟩
  | unknown =>
    rw [request] at h
    cases h
  | definition target inner name =>
    rw [request] at h
    obtain ⟨leads, named⟩ := target?_of_request found request
    exact Or.inr ⟨(target, name), inner, leads, named labelled, h⟩

end Requests

structure Followed (src : Sources) (importer : Importer) (package label name : String)
    (chain : List String) (st : State) (result : String) (st' : State) : Prop where
  unmet : st.memo (package, name) = none
  run : ∃ (schema : Schema) (source : TypeDefinition) (st₁ : State) (names : List String)
      (st₂ : State),
    src.packages.lookup package = some schema ∧ schema.get? name = some source ∧
    st₁.localNames = st.localNames ∧ st₁.imported = st.imported ∧
    (source.referredNames.mapM
      ((Site.within schema package label).localName src importer chain)).run
      (st₁.entered (package, name) (provisional src.base st label name)
        (!st.isUsed src.base (provisional src.base st label name))) = .ok (names, st₂) ∧
    Ending src.base (package, name) (provisional src.base st label name)
      (!st.isUsed src.base (provisional src.base st label name)) st.imported.length
      ((source.refilled names).renamed (provisional src.base st label name)) st₂ result st'

section Definitions

variable {src : Sources} {package label name : String} {chain : List String}

def State.opened (src : Sources) (package label name : String) (located : State) : State :=
  located.entered (package, name) (provisional src.base located label name)
    (!located.isUsed src.base (provisional src.base located label name))

theorem State.isUsed_congr {st st' : State} (imported : st'.imported = st.imported) (base : Schema)
    (n : String) : st'.isUsed base n = st.isUsed base n := by
  simp [State.isUsed, imported]

theorem provisional_congr {st st' : State} (imported : st'.imported = st.imported) (base : Schema)
    (label name : String) : provisional base st' label name = provisional base st label name := by
  simp [provisional, State.isUsed_congr imported]

theorem ending_of_conclude {located st st' : State} {d : TypeDefinition} {result : String}
    (h : (conclude src package label name located d).run st = .ok (result, st')) :
    Ending src.base (package, name) (provisional src.base located label name)
      (!located.isUsed src.base (provisional src.base located label name)) located.imported.length
      (d.renamed (provisional src.base located label name)) st result st' := by
  unfold conclude at h
  split at h
  · exact ending_of_settle h
  · next free =>
    have fresh : (!located.isUsed src.base (provisional src.base located label name)) = true := by
      simp [provisional, free]
    cases h
    exact .kept fresh

theorem importName_run_of_met {fuel : Nat} {st : State} {known : String}
    (met : st.memo (package, name) = some known) :
    (importName src (fuel + 1) package label name chain).run st = .ok (known, st) := by
  have noted : st.localNames.lookup (package, name) = some known := met
  rw [importName, StateT.run_bind, StateT.run_get, pure_bind, noted]
  rfl

/-- A definition that was not met before is located, its references are followed in turn, and then
its import ends. -/
theorem importName_run_of_unmet {fuel : Nat} {st : State} (unmet : st.memo (package, name) = none) :
    (importName src (fuel + 1) package label name chain).run st =
      (do
        let ((schema, source), located) ← (locate src package label name chain).run st
        let (names, st₂) ← (source.referredNames.mapM
          ((Site.within schema package label).localName src (importName src fuel) chain)).run
            (State.opened src package label name located)
        (conclude src package label name located (source.refilled names)).run st₂) := by
  have none : st.localNames.lookup (package, name) = none := unmet
  rw [importName, StateT.run_bind, StateT.run_get, pure_bind, none]
  dsimp only
  rw [StateT.run_bind]
  refine congrArg _ (funext fun ⟨⟨schema, source⟩, located⟩ => ?_)
  simp only [StateT.run_bind, StateT.run_get, StateT.run_set, pure_bind,
    TypeDefinition.mapReferences_eq, StateT.run_map]
  rw [bind_map_left]
  rfl

end Definitions

theorem importName_eq_ok {src : Sources} {fuel : Nat} {package label name : String}
    {chain : List String} {st st' : State} {result : String}
    (h : (importName src (fuel + 1) package label name chain).run st = .ok (result, st')) :
    (st.memo (package, name) = some result ∧ st' = st) ∨
      Followed src (importName src fuel) package label name chain st result st' := by
  cases noted : st.memo (package, name) with
  | some known =>
    rw [importName_run_of_met noted] at h
    cases h
    exact Or.inl ⟨rfl, rfl⟩
  | none =>
    rw [importName_run_of_unmet noted, Except.bind_eq_ok_iff] at h
    obtain ⟨⟨⟨schema, source⟩, st₁⟩, located, h⟩ := h
    obtain ⟨⟨names, st₂⟩, followed, h⟩ := Except.bind_eq_ok_iff.mp h
    obtain ⟨found, declared, localNames, imported⟩ := locate_eq_ok located
    have ending := ending_of_conclude h
    have used := State.isUsed_congr imported src.base
    have named := provisional_congr imported src.base
    simp only [State.opened, used, named, imported] at followed ending
    exact Or.inr ⟨noted, schema, source, st₁, names, st₂, found, declared, localNames, imported,
      followed, ending⟩

end Jadn.Import
