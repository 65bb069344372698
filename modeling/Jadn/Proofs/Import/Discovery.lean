import Jadn.Proofs.Import.Meaning
import Mathlib.Data.Set.Insert

/-!
The order in which an import discovers definitions.

The definitions of packages that a base reaches are discovered depth first. An import meets
exactly these, and what it adds are copies of some of them, in the order of their discovery;
any other one goes by a name that was used before.
-/

set_option autoImplicit false

namespace Jadn.Import

open Relation (ReflTransGen)

section Discovery

variable {α : Type}

/-- Depth-first discovery: what is found from keys in turn, given what was seen before. What
is found below a key follows it at once. -/
inductive Discovers (next : α → List α) : Set α → List α → List α → Prop where
  | done {seen : Set α} : Discovers next seen [] []
  | again {seen : Set α} {key : α} {keys found : List α} (known : key ∈ seen)
      (rest : Discovers next seen keys found) : Discovers next seen (key :: keys) found
  | first {seen : Set α} {key : α} {keys below found : List α} (fresh : key ∉ seen)
      (inner : Discovers next (insert key seen) (next key) below)
      (rest : Discovers next (insert key seen ∪ {k | k ∈ below}) keys found) :
      Discovers next seen (key :: keys) (key :: (below ++ found))

namespace Discovers

variable {next : α → List α} {seen : Set α} {keys found : List α}

theorem append {keys' found' : List α} (h : Discovers next seen keys found)
    (h' : Discovers next (seen ∪ {k | k ∈ found}) keys' found') :
    Discovers next seen (keys ++ keys') (found ++ found') := by
  induction h with
  | done => simpa using h'
  | again known _ ih => exact .again known (ih h')
  | @first seen key keys below found fresh inner rest _ ih =>
    rw [List.cons_append, List.cons_append, List.append_assoc]
    refine .first fresh inner (ih ?_)
    have same : seen ∪ {k | k ∈ key :: (below ++ found)} =
        insert key seen ∪ {k | k ∈ below} ∪ {k | k ∈ found} := by
      ext k
      simp only [Set.mem_union, Set.mem_insert_iff, Set.mem_ofPred_eq, List.mem_cons,
        List.mem_append]
      tauto
    rwa [same] at h'

theorem fresh (h : Discovers next seen keys found) : ∀ k ∈ found, k ∉ seen := by
  induction h with
  | done => simp
  | again _ _ ih => exact ih
  | first fresh _ _ below rest =>
    intro k member
    rcases List.mem_cons.mp member with rfl | later
    · exact fresh
    · rcases List.mem_append.mp later with inner | after
      · exact fun known => below k inner (Set.mem_insert_of_mem _ known)
      · exact fun known => rest k after (Or.inl (Set.mem_insert_of_mem _ known))

theorem nodup (h : Discovers next seen keys found) : found.Nodup := by
  induction h with
  | done => exact List.nodup_nil
  | again _ _ ih => exact ih
  | @first seen key _ below found _ inner rest below' rest' =>
    have apart : key ∉ below := fun member => inner.fresh key member (Set.mem_insert _ _)
    have apart' : key ∉ found := fun member =>
      rest.fresh key member (Or.inl (Set.mem_insert _ _))
    refine List.nodup_cons.mpr ⟨by simp [apart, apart'], List.nodup_append.mpr ⟨below', rest', ?_⟩⟩
    rintro k hk _ hk' rfl
    exact rest.fresh k hk' (Or.inr hk)

theorem reached (h : Discovers next seen keys found) :
    ∀ k ∈ found, ∃ root ∈ keys, ReflTransGen (fun x y => y ∈ next x) root k := by
  induction h with
  | done => simp
  | again _ _ ih =>
    intro k member
    obtain ⟨root, hroot, steps⟩ := ih k member
    exact ⟨root, List.mem_cons_of_mem _ hroot, steps⟩
  | first _ _ _ below rest =>
    intro k member
    rcases List.mem_cons.mp member with rfl | later
    · exact ⟨k, List.mem_cons_self, .refl⟩
    · rcases List.mem_append.mp later with inner | after
      · obtain ⟨root, hroot, steps⟩ := below k inner
        exact ⟨_, List.mem_cons_self, .head hroot steps⟩
      · obtain ⟨root, hroot, steps⟩ := rest k after
        exact ⟨root, List.mem_cons_of_mem _ hroot, steps⟩

/-- The keys are found, unless they were seen before, and so is what comes next to what is
found. -/
theorem closed (h : Discovers next seen keys found) :
    (∀ k ∈ keys, k ∈ seen ∨ k ∈ found) ∧
      ∀ k ∈ found, ∀ k' ∈ next k, k' ∈ seen ∨ k' ∈ found := by
  induction h with
  | done => simp
  | again known _ ih =>
    refine ⟨fun k member => ?_, ih.2⟩
    rcases List.mem_cons.mp member with rfl | later
    · exact Or.inl known
    · exact ih.1 k later
  | @first seen key _ below found _ _ _ below' rest' =>
    -- What the search below and the one after it know is the key, seen, or found below it.
    have known : ∀ k, k ∈ insert key seen ∪ {k | k ∈ below} →
        k ∈ seen ∨ k ∈ key :: (below ++ found) := by
      rintro k ((rfl | before) | inner)
      · exact Or.inr List.mem_cons_self
      · exact Or.inl before
      · exact Or.inr (List.mem_cons_of_mem _ (List.mem_append_left _ inner))
    have inner : ∀ k, k ∈ insert key seen ∨ k ∈ below → k ∈ seen ∨ k ∈ key :: (below ++ found) :=
      fun k h => known k h
    have after : ∀ k, k ∈ insert key seen ∪ {k | k ∈ below} ∨ k ∈ found →
        k ∈ seen ∨ k ∈ key :: (below ++ found) := by
      rintro k (early | late)
      · exact known k early
      · exact Or.inr (List.mem_cons_of_mem _ (List.mem_append_right _ late))
    constructor
    · intro k member
      rcases List.mem_cons.mp member with rfl | later
      · exact Or.inr List.mem_cons_self
      · exact after k (rest'.1 k later)
    · intro k member k' hk'
      rcases List.mem_cons.mp member with rfl | later
      · exact inner k' (below'.1 k' hk')
      · rcases List.mem_append.mp later with early | late
        · exact inner k' (below'.2 k early k' hk')
        · exact after k' (rest'.2 k late k' hk')

/-- Without anything seen before, exactly what the keys reach is found. -/
theorem mem_iff (h : Discovers next ∅ keys found) {k : α} :
    k ∈ found ↔ ∃ root ∈ keys, ReflTransGen (fun x y => y ∈ next x) root k := by
  refine ⟨h.reached k, ?_⟩
  rintro ⟨root, hroot, steps⟩
  obtain ⟨start, step⟩ := h.closed
  induction steps with
  | refl => exact (start root hroot).resolve_left (Set.notMem_empty _)
  | tail _ hk ih => exact (step _ ih _ hk).resolve_left (Set.notMem_empty _)

/-- What is found is determined by the keys and by what was seen before. -/
theorem unique {found' : List α} (h : Discovers next seen keys found)
    (h' : Discovers next seen keys found') : found = found' := by
  induction h generalizing found' with
  | done =>
    cases h'
    rfl
  | again known _ ih =>
    cases h' with
    | again _ rest => exact ih rest
    | first fresh => exact absurd known fresh
  | first fresh _ _ below after =>
    cases h' with
    | again known => exact absurd known fresh
    | first _ inner rest =>
      obtain rfl := below inner
      rw [after rest]

end Discovers

end Discovery

def Sources.next (src : Sources) (key : String × String) : List (String × String) :=
  ((src.definition? key).map fun d => d.referredNames.filterMap (src.target? key.1)).getD []

def Sources.roots (src : Sources) : List (String × String) :=
  src.base.types.flatMap fun d => d.referredNames.filterMap src.baseTarget?

/-- A name that a copy of a definition of a package puts in place of a reference: a base type,
or a name that may stand for what the reference leads to. -/
def Sources.Follows (src : Sources) (package x y : String) : Prop :=
  (BaseType.ofName? x).isSome ∧ y = x ∨
    ∃ target, src.target? package x = some target ∧ src.Named target y

/-- A definition of a package with other names in place of its own one and those that it refers
to. -/
def Sources.IsCopy (src : Sources) (key : String × String) (e : TypeDefinition) : Prop :=
  ∃ d g, src.definition? key = some d ∧ src.Named key e.name ∧ e = (d.replaced g).renamed e.name ∧
    ∀ x ∈ d.referredNames, src.Follows key.1 x (g x)

def State.met (st : State) : Set (String × String) := {key | (st.memo key).isSome}

theorem State.met_empty : State.met {} = ∅ := by
  ext key
  simp [State.met, State.memo]

/-- What is discovered from some keys between two states, and which copies are made of it. A
definition that is not copied goes by a name that was used before it was discovered. -/
structure Explored (src : Sources) (st st' : State) (keys found : List (String × String))
    (copies : List ((String × String) × TypeDefinition)) : Prop where
  memo : ∀ key name, st.memo key = some name → st'.memo key = some name
  discovers : Discovers src.next st.met keys found
  met : st'.met = st.met ∪ {k | k ∈ found}
  imported : st'.imported = st.imported ++ finished (copies.map fun c => (c.2.name, c.2))
  order : (copies.map Prod.fst).Sublist found
  copied : ∀ c ∈ copies, src.IsCopy c.1 c.2 ∧ st'.memo c.1 = some c.2.name
  represented : ∀ key ∈ found, key ∈ copies.map Prod.fst ∨ ∃ name, st'.memo key = some name ∧
    (st.isUsed src.base name = true ∨
      ∃ c ∈ copies, c.2.name = name ∧ [c.1, key].Sublist found)

def Explores (src : Sources) (keys : List (String × String)) (st st' : State) : Prop :=
  ∃ found copies, Explored src st st' keys found copies

section Exploring

variable {src : Sources} {Good : String → Prop} {st st' st'' : State}
  {keys keys' : List (String × String)}

theorem Explored.refl (known : ∀ key ∈ keys, (st.memo key).isSome) :
    Explored src st st keys [] [] where
  memo := fun _ _ h => h
  discovers := by
    induction keys with
    | nil => exact .done
    | cons key keys ih =>
      exact .again (known key List.mem_cons_self)
        (ih fun k hk => known k (List.mem_cons_of_mem _ hk))
  met := by simp
  imported := by simp [finished]
  order := .slnil
  copied := by simp
  represented := by simp

theorem Explored.isUsed {found : List (String × String)}
    {copies : List ((String × String) × TypeDefinition)}
    (h : Explored src st st' keys found copies) {name : String}
    (used : st'.isUsed src.base name = true) :
    st.isUsed src.base name = true ∨ ∃ c ∈ copies, c.2.name = name := by
  simp only [State.isUsed_iff, h.imported, Dict.keys, List.map_append, List.mem_append] at used ⊢
  rcases used with declared | before | later
  · exact Or.inl (Or.inl declared)
  · exact Or.inl (Or.inr before)
  · right
    simpa [finished] using later

theorem Explored.trans {found found' : List (String × String)}
    {copies copies' : List ((String × String) × TypeDefinition)}
    (first : Explored src st st' keys found copies)
    (second : Explored src st' st'' keys' found' copies') :
    Explored src st st'' (keys ++ keys') (found ++ found') (copies ++ copies') where
  memo := fun key name h => second.memo key name (first.memo key name h)
  discovers := first.discovers.append (first.met ▸ second.discovers)
  met := by
    rw [second.met, first.met]
    ext k
    simp [or_assoc]
  imported := by
    rw [second.imported, first.imported]
    simp [finished]
  order := by
    rw [List.map_append]
    exact first.order.append second.order
  copied := by
    intro c hc
    rcases List.mem_append.mp hc with early | late
    · exact ⟨(first.copied c early).1, second.memo _ _ (first.copied c early).2⟩
    · exact second.copied c late
  represented := by
    intro key hkey
    rw [List.map_append, List.mem_append]
    rcases List.mem_append.mp hkey with early | late
    · rcases first.represented key early with copied | ⟨name, noted, used | ⟨c, hc, named, before⟩⟩
      · exact Or.inl (Or.inl copied)
      · exact Or.inr ⟨name, second.memo _ _ noted, Or.inl used⟩
      · exact Or.inr ⟨name, second.memo _ _ noted, Or.inr ⟨c, List.mem_append_left _ hc, named,
          before.trans (List.sublist_append_left _ _)⟩⟩
    · rcases second.represented key late with copied | ⟨name, noted, used | ⟨c, hc, named, before⟩⟩
      · exact Or.inl (Or.inr copied)
      · refine Or.inr ⟨name, noted, (first.isUsed used).imp_right ?_⟩
        rintro ⟨c, hc, named⟩
        have known : c.1 ∈ found := first.order.subset (List.mem_map_of_mem hc)
        exact ⟨c, List.mem_append_left _ hc, named,
          (List.singleton_sublist.mpr known).append (List.singleton_sublist.mpr late)⟩
      · exact Or.inr ⟨name, noted, Or.inr ⟨c, List.mem_append_right _ hc, named,
          before.trans (List.sublist_append_right _ _)⟩⟩

theorem mapM_explores {α β : Type} {f : α → Resolver β} {xs : List α} {ys : List β}
    {keys : α → List (String × String)}
    (step : ∀ x ∈ xs, ∀ {s s' : State} {y : β}, Sound src Good s → (f x).run s = .ok (y, s') →
      Sound src Good s' ∧ Explores src (keys x) s s')
    (sound : Sound src Good st) (h : (xs.mapM f).run st = .ok (ys, st')) :
    Sound src Good st' ∧ Explores src (xs.flatMap keys) st st' := by
  induction xs generalizing st ys with
  | nil =>
    cases h
    exact ⟨sound, [], [], .refl (by simp)⟩
  | cons x xs ih =>
    obtain ⟨y, st₁, zs, first, others, rfl⟩ := run_mapM_cons_eq_ok_iff.mp h
    obtain ⟨sound₁, found, copies, explored⟩ := step x List.mem_cons_self sound first
    obtain ⟨sound₂, found', copies', rest⟩ :=
      ih (fun z hz => step z (List.mem_cons_of_mem _ hz)) sound₁ others
    exact ⟨sound₂, _, _, explored.trans rest⟩

def ImportsInOrder (src : Sources) (Good : String → Prop) (importer : Importer) : Prop :=
  ∀ package label name chain st result st', src.Label label package → Sound src Good st →
    (importer package label name chain).run st = .ok (result, st') →
      Explores src [(package, name)] st st'

theorem followAll_explores {importer : Importer} (imports : Imports src Good importer)
    (inOrder : ImportsInOrder src Good importer) {schema : Schema} {package label : String}
    {chain xs ys : List String}
    (found : src.packages.lookup package = some schema) (labelled : src.Label label package)
    (sound : Sound src Good st)
    (h : (xs.mapM ((Site.within schema package label).localName src importer chain)).run st =
      .ok (ys, st')) :
    Explores src (xs.filterMap (src.target? package)) st st' := by
  have step : ∀ x ∈ xs, ∀ {s s' : State} {y : String}, Sound src Good s →
      ((Site.within schema package label).localName src importer chain x).run s = .ok (y, s') →
        Sound src Good s' ∧ Explores src (src.target? package x).toList s s' := by
    intro x hx s s' y sound h
    refine ⟨(follow_run imports found labelled sound h).1, ?_⟩
    rcases localName_within_eq_ok found labelled h with ⟨base, rfl, rfl⟩ | ⟨key, inner, leads, h⟩
    · have nowhere : src.target? package y = none := by simp [Sources.target?, base]
      rw [nowhere]
      exact ⟨[], [], .refl (by simp)⟩
    · rw [leads]
      exact inOrder _ _ _ _ _ _ _ h.1 sound h.2
  rw [List.filterMap_eq_flatMap_toList]
  exact (mapM_explores step sound h).2

namespace Round

variable {st₁ st₂ : State} {key : String × String} {source : TypeDefinition}
  {provisional result : String}
  (round : Round src Good st st₁ st₂ key source provisional result st')
include round

theorem met₁ : st₁.met = insert key st.met := by
  ext k
  simp only [State.met, Set.mem_ofPred_eq, Set.mem_insert_iff, round.memo₁]
  by_cases same : k = key <;> simp [same]

theorem met_eq {found : List (String × String)} (met₂ : st₂.met = st₁.met ∪ {k | k ∈ found}) :
    st'.met = st.met ∪ {k | k ∈ key :: found} := by
  have after : ∀ k, (st₂.memo k).isSome ↔ k = key ∨ (st.memo k).isSome ∨ k ∈ found := by
    intro k
    have met := Set.ext_iff.mp met₂ k
    rw [round.met₁] at met
    simpa [State.met, or_assoc] using met
  ext k
  simp only [State.met, Set.mem_ofPred_eq, Set.mem_union, List.mem_cons, round.ended.memo]
  by_cases same : k = key
  · simp [same]
  · simp [same, after]

/-- Nothing goes by the provisional name of a definition that was dropped, unless it was used
before. -/
theorem isUsed_of_dropped {new : Dict TypeDefinition}
    (grown : st₂.imported = st.imported ++
      (if st.isUsed src.base provisional then [] else [(provisional, none)]) ++ finished new)
    (dropped : st'.imported = st.imported ++ finished new)
    (used : st'.isUsed src.base provisional = true) : st.isUsed src.base provisional = true := by
  by_contra free
  rw [Bool.not_eq_true] at free
  obtain ⟨undeclared, absent⟩ := State.isUsed_eq_false_iff.mp free
  have listed : provisional ∈ (finished new).keys := by
    rw [State.isUsed_iff, undeclared, dropped, Dict.keys, List.map_append, List.mem_append] at used
    exact (used.resolve_left (by simp)).resolve_left absent
  have distinct := round.sound₂.distinct
  rw [grown, free, Dict.keys, List.map_append, List.map_append] at distinct
  exact (List.nodup_append.mp distinct).2.2 provisional (by simp) provisional listed rfl

theorem isUsed_result_of_ne (other : result ≠ provisional) : st.isUsed src.base result = true := by
  have own := round.answer.resolve_left other
  rcases round.named with ⟨used, -⟩ | ⟨-, named⟩
  · exact own ▸ used
  · exact absurd (own.trans named.symm) other

theorem isUsed_of_memo {k : String × String} {name : String} (other : k ≠ key)
    (noted : st₂.memo k = some name) : st'.isUsed src.base name = true := by
  rcases round.ended.isUsed name (round.sound₂.used k name noted) with used | givenUp
  · exact used
  · exact absurd givenUp (round.not_givenUp_of_memo other noted)

theorem isCopy : src.IsCopy key ((source.replaced (st₂.localName src key.1)).renamed result) := by
  refine ⟨source, st₂.localName src key.1, round.declared, round.stands, rfl, fun x hx => ?_⟩
  rcases round.localName_cases hx with base | ⟨-, target, leads, named, -⟩
  · exact Or.inl base
  · exact Or.inr ⟨target, leads, named⟩

/-- A definition is copied by the end of its round, ahead of what was copied on the way, or it
is not copied at all. -/
theorem explores (inner : Explores src (src.next key) st₁ st₂) : Explores src [key] st st' := by
  obtain ⟨found, copies, inner⟩ := inner
  have discovers := inner.discovers
  rw [round.met₁] at discovers
  have fresh : ∀ k ∈ found, k ≠ key := by
    rintro k member rfl
    exact discovers.fresh k member (Set.mem_insert _ _)
  have unmet : key ∉ st.met := by simp [State.met, round.unmet]
  have last : Discovers src.next (insert key st.met ∪ {k | k ∈ found}) [] [] := .done
  have alone : Discovers src.next st.met [key] (key :: found) := by
    simpa using discovers.first unmet last
  have memo : ∀ k ∈ found, st'.memo k = st₂.memo k := fun k hk => round.memo_of_ne (fresh k hk)
  have copied : ∀ c ∈ copies, src.IsCopy c.1 c.2 ∧ st'.memo c.1 = some c.2.name := by
    intro c hc
    rw [memo c.1 (inner.order.subset (List.mem_map_of_mem hc))]
    exact inner.copied c hc
  obtain ⟨new, grown, order⟩ := round.ended.order
  have same : finished new = finished (copies.map fun c => (c.2.name, c.2)) := by
    have grown' := inner.imported
    rw [grown, round.imported₁] at grown'
    exact List.append_cancel_left grown'
  rcases order with dropped | ⟨rfl, kept⟩
  · have known := round.isUsed_of_dropped grown dropped
    refine ⟨key :: found, copies, round.grows.memo, alone, round.met_eq inner.met,
      same ▸ dropped, inner.order.cons _, copied, ?_⟩
    intro k hk
    rcases List.mem_cons.mp hk with rfl | later
    · refine Or.inr ⟨result, round.memo_key, Or.inl ?_⟩
      by_cases own : result = provisional
      · exact own ▸ known (own ▸ round.isUsed_result)
      · exact round.isUsed_result_of_ne own
    · rcases inner.represented k later with listed | ⟨name, noted, used | ⟨c, hc, named, before⟩⟩
      · exact Or.inl listed
      · refine Or.inr ⟨name, (memo k later).trans noted, Or.inl ?_⟩
        rcases round.isUsed₁_iff.mp used with used | rfl
        · exact used
        · exact known (round.isUsed_of_memo (fresh k later) noted)
      · exact Or.inr ⟨name, (memo k later).trans noted, Or.inr ⟨c, hc, named, before.cons _⟩⟩
  · refine ⟨key :: found, (key, (source.replaced (st₂.localName src key.1)).renamed result) :: copies,
      round.grows.memo, alone, round.met_eq inner.met, ?_, inner.order.cons_cons _, ?_, ?_⟩
    · rw [kept, finished, List.map_cons]
      exact congrArg _ (congrArg _ same)
    · intro c hc
      rcases List.mem_cons.mp hc with rfl | later
      · exact ⟨round.isCopy, round.memo_key⟩
      · exact copied c later
    · intro k hk
      rw [List.map_cons, List.mem_cons]
      rcases List.mem_cons.mp hk with rfl | later
      · exact Or.inl (Or.inl rfl)
      · rcases inner.represented k later with listed | ⟨name, noted, used | ⟨c, hc, named, before⟩⟩
        · exact Or.inl (Or.inr listed)
        · refine Or.inr ⟨name, (memo k later).trans noted, ?_⟩
          rcases round.isUsed₁_iff.mp used with used | rfl
          · exact Or.inl used
          · exact Or.inr ⟨_, List.mem_cons_self, rfl, (List.singleton_sublist.mpr later).cons_cons _⟩
        · exact Or.inr ⟨name, (memo k later).trans noted,
            Or.inr ⟨c, List.mem_cons_of_mem _ hc, named, before.cons _⟩⟩

end Round

theorem importName_explores (naming : Names src Good) (fuel : Nat) :
    ImportsInOrder src Good (importName src fuel) := by
  induction fuel with
  | zero =>
    intro package label name chain st result st' _ _ h
    cases h
  | succ fuel ih =>
    intro package label name chain st result st' labelled sound h
    rcases importName_eq_ok h with ⟨noted, rfl⟩ | followed
    · exact ⟨[], [], .refl (by simp [noted])⟩
    · have imports := importName_run naming fuel
      obtain ⟨st₁, st₂, source, provisional, schema, names, round, found, run⟩ :=
        round_of_followed naming imports labelled sound followed
      have next : src.next (package, name) =
          source.referredNames.filterMap (src.target? package) := by
        simp [Sources.next, round.declared]
      have inner := followAll_explores imports ih found labelled round.sound₁ run
      exact round.explores (next ▸ inner)

theorem localName_base_explores (naming : Names src Good) {fuel : Nat} {chain : List String}
    {x y : String} (sound : Sound src Good st)
    (h : (Site.base.localName src (importName src fuel) chain x).run st = .ok (y, st')) :
    Explores src (src.baseTarget? x).toList st st' := by
  rcases localName_base_eq_ok h with ⟨plain, -, rfl⟩ | ⟨key, label, leads, labelled, imported⟩
  · rw [src.baseTarget?_of_not_mem plain]
    exact ⟨[], [], .refl (by simp)⟩
  · rw [leads]
    exact importName_explores naming fuel _ _ _ _ _ _ _ labelled sound imported

theorem baseTypes_explores (naming : Names src Good) {types : List TypeDefinition}
    (h : (baseTypes src).run {} = .ok (types, st')) : Explores src src.roots {} st' := by
  have start : Sound src Good {} := sound_empty
  refine (mapM_explores (fun d hd s s' e sound mapped => ?_) start h).2
  refine ⟨(mapReferences_run naming sound mapped).1, ?_⟩
  rw [d.mapReferences_eq, StateT.run_map, Except.map_eq_ok_iff] at mapped
  obtain ⟨⟨names, _⟩, followed, filled⟩ := mapped
  cases filled
  rw [List.filterMap_eq_flatMap_toList]
  refine (mapM_explores (fun x hx s s' y sound h => ?_) sound followed).2
  exact ⟨(localName_base_run naming sound h).1, localName_base_explores naming sound h⟩

end Exploring

end Jadn.Import
