import Jadn.Proofs.Import.Invariants

/-!
How the import of a definition ends.

It keeps the definition under the name by which its references were followed, or drops it for one
that was there before. A state that satisfies the invariants satisfies them after the definition is
entered, and the endings have in common what `Ended` says.
-/

set_option autoImplicit false

namespace Jadn.Import

section Ending

variable {src : Sources} {Good : String → Prop} {st : State} {name : String}

theorem State.memo_setLocalName (st : State) (key k : String × String) (name : String) :
    (st.setLocalName key name).memo k = if k = key then some name else st.memo k := by
  simp only [memo, setLocalName, List.lookup_cons]
  by_cases same : k = key
  · simp [same]
  · have : (k == key) = false := by simpa using same
    simp [same, this]

theorem State.memo_entered (st : State) (key k : String × String) (name : String)
    (isFresh : Bool) :
    (st.entered key name isFresh).memo k = if k = key then some name else st.memo k := by
  have same : (st.entered key name isFresh).memo k = (st.setLocalName key name).memo k := by
    unfold State.entered
    split <;> rfl
  rw [same, State.memo_setLocalName]

theorem State.imported_entered (st : State) (base : Schema) (key : String × String)
    (name : String) :
    (st.entered key name (!st.isUsed base name)).imported =
      st.imported ++ if st.isUsed base name then [] else [(name, none)] := by
  unfold State.entered
  cases free : st.isUsed base name with
  | true => simp [State.setLocalName]
  | false =>
    have absent := (State.isUsed_eq_false_iff.mp free).2
    simp [State.setLocalName, State.setImported, Dict.insert_of_not_mem _ absent]

theorem State.isUsed_iff_of_entered {base : Schema} {st₁ : State}
    (grown : st₁.imported = st.imported ++ if st.isUsed base name then [] else [(name, none)])
    {n : String} : st₁.isUsed base n = true ↔ st.isUsed base n = true ∨ n = name := by
  rw [State.isUsed_iff, grown, Dict.keys, List.map_append, List.mem_append, ← or_assoc,
    ← Dict.keys, ← State.isUsed_iff]
  cases known : st.isUsed base name with
  | false => simp
  | true =>
    simp only [if_true, List.map_nil, List.not_mem_nil, or_false]
    exact ⟨Or.inl, Or.rec id fun own => own ▸ known⟩

/-- Entering a definition notes its provisional name and reserves it if it is free. -/
theorem Sound.entered (sound : Sound src Good st) (key : String × String) (good : Good name)
    (stands : src.Named key name) {st₁ : State}
    (localNames : st₁.localNames = st.localNames) (imported : st₁.imported = st.imported) :
    let s := st₁.entered key name (!st.isUsed src.base name)
    Sound src Good s ∧ (∀ k, s.memo k = if k = key then some name else st.memo k) ∧
      s.imported = st.imported ++ if st.isUsed src.base name then [] else [(name, none)] := by
  intro s
  have memo : ∀ k, s.memo k = if k = key then some name else st.memo k := by
    intro k
    rw [State.memo_entered]
    simp [State.memo, localNames]
  have grown : s.imported =
      st.imported ++ if st.isUsed src.base name then [] else [(name, none)] := by
    unfold s
    rw [← State.isUsed_congr imported, State.imported_entered, imported]
  have keys : s.imported.keys =
      st.imported.keys ++ if st.isUsed src.base name then [] else [name] := by
    rw [grown]
    split <;> simp [Dict.keys]
  have entered : ∀ n ∈ s.imported.keys, n ∈ st.imported.keys ∨
      st.isUsed src.base name = false ∧ n = name := by
    intro n hn
    rw [keys] at hn
    refine (List.mem_append.mp hn).imp_right fun own => ?_
    split at own
    · cases own
    · next free => exact ⟨Bool.eq_false_iff.mpr free, List.mem_singleton.mp own⟩
  have noted : ∀ k n, s.memo k = some n → k = key ∧ n = name ∨ st.memo k = some n := by
    intro k n h
    rw [memo] at h
    split at h
    · next same => exact Or.inl ⟨same, (Option.some.inj h).symm⟩
    · exact Or.inr h
  refine ⟨⟨?_, ?_, ?_, ?_, ?_, ?_, ?_⟩, memo, grown⟩
  · rw [keys]
    cases free : st.isUsed src.base name with
    | true => simpa using sound.distinct
    | false =>
      simpa using List.Nodup.concat (State.isUsed_eq_false_iff.mp free).2 sound.distinct
  · intro n hn
    rcases entered n hn with before | ⟨free, rfl⟩
    · exact sound.apart n before
    · exact (State.isUsed_eq_false_iff.mp free).1
  · intro n e entry
    rw [grown] at entry
    refine sound.named n e ?_
    split at entry <;> simpa using entry
  · intro n hn
    rcases entered n hn with before | ⟨-, rfl⟩
    · exact sound.listed n before
    · exact good
  · intro k n h
    rcases noted k n h with ⟨-, own⟩ | before
    · exact (State.isUsed_iff_of_entered grown).mpr (Or.inr own)
    · exact (State.isUsed_iff_of_entered grown).mpr (Or.inl (sound.used k n before))
  · intro k n h
    rcases noted k n h with ⟨-, rfl⟩ | before
    · exact good
    · exact sound.good k n before
  · intro k n h
    rcases noted k n h with ⟨rfl, rfl⟩ | before
    · exact stands
    · exact sound.stands k n before

/-- A provisional name is given up if the definition is dropped that was followed under it. -/
structure GivenUp (src : Sources) (st st₂ : State) (key : String × String)
    (provisional result name : String) : Prop where
  name_eq : name = provisional
  result_eq : result = key.2
  apart : name ≠ key.2
  free : st.isUsed src.base name = false
  unheld : st₂.held src.base name = none
  unreferred : st₂.refersTo st.imported.length name = false

/-- What the three endings of an import have in common, `st₂` being the state in which all
references of the definition are followed and `rest` what was added since it was entered. -/
structure Ended (src : Sources) (st st₂ : State) (key : String × String) (provisional : String)
    (d : TypeDefinition) (result : String) (st' : State) : Prop where
  memo : ∀ k, st'.memo k = if k = key then some result else st₂.memo k
  order : ∃ new : Dict TypeDefinition,
    st₂.imported = st.imported ++
      (if st.isUsed src.base provisional then [] else [(provisional, none)]) ++ finished new ∧
    (st'.imported = st.imported ++ finished new ∨ result = provisional ∧
      st'.imported = st.imported ++ finished ((provisional, d) :: new))
  sublist : st'.imported.keys.Sublist st₂.imported.keys
  held : ∀ n e, st₂.held src.base n = some e → st'.held src.base n = some e
  existing : ∃ e, st'.held src.base result = some e ∧ (e == d.renamed result) = true
  entries : ∀ n e, (n, some e) ∈ st'.imported → (n, some e) ∈ st₂.imported ∨
    n = provisional ∧ e = d ∧ result = provisional ∧ st.isUsed src.base provisional = false
  isUsed : ∀ n, st₂.isUsed src.base n = true → st'.isUsed src.base n = true ∨
    GivenUp src st st₂ key provisional result n

variable {st₂ : State} {new : Dict TypeDefinition} {d : TypeDefinition} {provisional : String}
  {key : String × String}

theorem Ended.grows {result : String} {st' : State}
    (ended : Ended src st st₂ key provisional d result st') :
    ∃ new : Dict TypeDefinition, st'.imported = st.imported ++ finished new := by
  obtain ⟨new, -, same | ⟨-, same⟩⟩ := ended.order
  · exact ⟨new, same⟩
  · exact ⟨(provisional, d) :: new, same⟩

theorem State.held_eq_some_iff {base : Schema} {n : String} {e : TypeDefinition} :
    st.held base n = some e ↔
      base.get? n = some e ∨ base.get? n = none ∧ st.imported.lookup n = some (some e) := by
  rw [held, Option.or_eq_some_iff, Option.join_eq_some_iff]

theorem State.held_eq_none_of_reserved {base : Schema} {after : Dict (Option TypeDefinition)}
    (free : st.isUsed base name = false)
    (grown : st₂.imported = st.imported ++ (name, none) :: after) : st₂.held base name = none := by
  obtain ⟨undeclared, absent⟩ := State.isUsed_eq_false_iff.mp free
  rw [State.held, undeclared, grown, List.lookup_append, Dict.lookup_of_not_mem absent]
  simp

theorem ended_of_taken (taken : st.isUsed src.base provisional = true)
    (grown : st₂.imported = st.imported ++ finished new)
    {result : String} (same : st₂.holdsSame src.base result d = true) :
    Ended src st st₂ key provisional d result (st₂.setLocalName key result) := by
  refine ⟨fun k => st₂.memo_setLocalName key k result, ⟨new, by simp [taken, grown], Or.inl grown⟩,
    List.Sublist.refl _, fun _ _ h => h, State.holdsSame_iff.mp same, fun _ _ h => Or.inl h,
    fun _ h => Or.inl h⟩

theorem ended_of_kept (free : st.isUsed src.base provisional = false)
    (grown : st₂.imported = st.imported ++ (provisional, none) :: finished new)
    (noted : st₂.memo key = some provisional) (named : d.name = provisional) :
    Ended src st st₂ key provisional d provisional (st₂.setImported provisional (some d)) := by
  obtain ⟨undeclared, absent⟩ := State.isUsed_eq_false_iff.mp free
  have imported : (st₂.setImported provisional (some d)).imported =
      st.imported ++ (provisional, some d) :: finished new := by
    rw [State.setImported, grown]
    exact Dict.insert_append_cons _ _ absent
  have keys : (st₂.setImported provisional (some d)).imported.keys = st₂.imported.keys := by
    rw [imported, grown]
    simp [Dict.keys]
  have missing := Dict.lookup_of_not_mem absent
  refine ⟨?_, ⟨new, by simp [free, grown], Or.inr ⟨rfl, imported⟩⟩, keys ▸ List.Sublist.refl _, ?_,
    ⟨d, ?_, ?_⟩, ?_, ?_⟩
  · intro k
    by_cases same : k = key
    · rw [if_pos same, same]
      exact noted
    · rw [if_neg same]
      rfl
  · intro n e h
    rw [State.held_eq_some_iff] at h ⊢
    refine h.imp_right ?_
    rintro ⟨undeclared, found⟩
    refine ⟨undeclared, ?_⟩
    rw [grown, List.lookup_append] at found
    rw [imported, List.lookup_append]
    by_cases same : n = provisional
    · subst same
      simp [missing] at found
    · have : (n == provisional) = false := by simpa using same
      simpa [List.lookup_cons, this] using found
  · rw [State.held_eq_some_iff, imported, List.lookup_append, missing]
    exact Or.inr ⟨undeclared, by simp⟩
  · have : d.renamed provisional = d := by rw [← named]; rfl
    rw [this]
    exact BEq.refl d
  · intro n e entry
    rw [imported] at entry
    rw [grown]
    simp only [List.mem_append, List.mem_cons, Prod.mk.injEq, Option.some.injEq] at entry ⊢
    tauto
  · intro n h
    left
    rw [State.isUsed_iff] at h ⊢
    rwa [keys]

theorem ended_of_dropped (free : st.isUsed src.base provisional = false)
    (grown : st₂.imported = st.imported ++ (provisional, none) :: finished new)
    (distinct : st₂.imported.keys.Nodup)
    (unreferred : st₂.refersTo st.imported.length provisional = false)
    (same : st₂.holdsSame src.base key.2 d = true) :
    Ended src st st₂ key provisional d key.2
      ((st₂.eraseImported provisional).setLocalName key key.2) := by
  have absent := (State.isUsed_eq_false_iff.mp free).2
  have later : provisional ∉ (finished new).keys := by
    rw [grown] at distinct
    simp only [Dict.keys, List.map_append, List.map_cons, List.nodup_append,
      List.nodup_cons] at distinct
    exact distinct.2.1.1
  have imported : ((st₂.eraseImported provisional).setLocalName key key.2).imported =
      st.imported ++ finished new := by
    rw [State.setLocalName, State.eraseImported, grown]
    exact Dict.erase_append_cons _ absent later
  have found : ∀ n, n ≠ provisional →
      ((st₂.eraseImported provisional).setLocalName key key.2).imported.lookup n =
        st₂.imported.lookup n := by
    intro n apart
    have : (n == provisional) = false := by simpa using apart
    rw [imported, grown, List.lookup_append, List.lookup_append, List.lookup_cons, this]
  have unheld := State.held_eq_none_of_reserved free grown
  have held : ∀ n e, st₂.held src.base n = some e →
      ((st₂.eraseImported provisional).setLocalName key key.2).held src.base n = some e := by
    intro n e h
    have apart : n ≠ provisional := by
      rintro rfl
      rw [unheld] at h
      cases h
    rw [State.held, found n apart]
    exact h
  refine ⟨?_, ⟨new, by simp [free, grown], Or.inl imported⟩, ?_, held, ?_, ?_, ?_⟩
  · intro k
    rw [State.memo_setLocalName]
    rfl
  · rw [imported, grown]
    simp only [Dict.keys, List.map_append, List.map_cons]
    exact List.Sublist.append_left (List.sublist_cons_self _ _) _
  · obtain ⟨e, existing, equal⟩ := State.holdsSame_iff.mp same
    exact ⟨e, held _ _ existing, equal⟩
  · intro n e entry
    rw [imported] at entry
    rw [grown]
    simp only [List.mem_append, List.mem_cons] at entry ⊢
    tauto
  · intro n h
    by_cases dropped : n = provisional
    · subst dropped
      have apart : n ≠ key.2 := by
        rintro rfl
        obtain ⟨e, existing, -⟩ := State.holdsSame_iff.mp same
        rw [unheld] at existing
        cases existing
      exact Or.inr ⟨rfl, rfl, apart, free, unheld, unreferred⟩
    · left
      simp only [State.isUsed, Dict.contains] at h ⊢
      rwa [found n dropped]

end Ending

end Jadn.Import
