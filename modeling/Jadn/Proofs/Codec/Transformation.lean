import Jadn.Proofs.Codec.Definition
import Jadn.Proofs.Import.Copies
import Jadn.Proofs.Schema.Descriptions
import Jadn.Proofs.Schema.Unfolding

/-!
What transformations keep of definitions that can be written.

Options without references are kept, and members keep their ids and names. References change, but
what stands in their place is empty only if it is the name of a declared type. So a definition
can be written after a transformation as before, unless some type has no name.
-/

set_option autoImplicit false

namespace Jadn

section Regular

variable {o o' : Options} {d e : TypeDefinition}

theorem Options.Regular.congr (h : o.Regular) (format : o'.format = o.format)
    (unknown : o'.unknown = o.unknown) : o'.Regular :=
  ⟨format ▸ h.format, unknown ▸ h.unknown⟩

namespace TypeDefinition

/-- The references in options as they were given, with their markers. -/
def given (d : TypeDefinition) : List String :=
  d.options.given ++ d.fields.flatMap fun f => f.options.given

structure Regular (d : TypeDefinition) : Prop where
  wellFormed : d.WellFormed
  options : d.options.Regular
  fields : ∀ f ∈ d.fields, f.options.Regular

theorem writable_iff : d.Writable ↔ d.Regular ∧ "" ∉ d.given := by
  simp only [given, List.mem_append, List.mem_flatMap, not_or, not_exists, not_and]
  constructor
  · intro h
    exact ⟨⟨h.wellFormed, h.options.toRegular, fun f hf => (h.fields f hf).toRegular⟩,
      h.options.named, fun f hf => (h.fields f hf).named⟩
  · rintro ⟨h, own, fields⟩
    exact ⟨h.wellFormed, ⟨h.options, own⟩, fun f hf => ⟨h.fields f hf, fields f hf⟩⟩

theorem Regular.of_fields {t : Field → Field} (h : d.Regular) (options : e.options.Regular)
    (keys : e.memberKeys = d.memberKeys) (fields : e.fields = d.fields.map t)
    (each : ∀ f ∈ d.fields, (t f).options.Regular) : e.Regular := by
  refine ⟨h.wellFormed.of_memberKeys_eq keys, options, fun f hf => ?_⟩
  rw [fields] at hf
  obtain ⟨own, member, rfl⟩ := List.mem_map.mp hf
  exact each own member

theorem mem_referredNames_of_given {r : String} (h : r ∈ d.given) :
    (splitMarker r).2 ∈ d.referredNames := by
  rcases List.mem_append.mp h with own | inFields
  · exact List.mem_append_left _ (List.mem_map_of_mem own)
  · obtain ⟨f, hf, member⟩ := List.mem_flatMap.mp inFields
    refine List.mem_append_right _ (List.mem_flatMap.mpr ⟨f, hf, ?_⟩)
    exact List.mem_cons_of_mem _ (List.mem_map_of_mem member)

end TypeDefinition

end Regular

section Fields

variable {d : TypeDefinition} {t : Field → Field}

theorem TypeDefinition.memberKeys_mapFields (o : Options)
    (same : ∀ f, (t f).id = f.id ∧ (t f).name = f.name) :
    TypeDefinition.memberKeys { d with options := o, kind := d.kind.mapFields (m := Id) t } =
      d.memberKeys := by
  unfold memberKeys
  cases d.kind with
  | choice fs | array fs | map fs | record fs =>
    change (fs.mapM (m := Id) t).map (fun f => (f.id, f.name)) = _
    rw [mapM_id, List.map_map]
    exact List.map_congr_left fun f _ => Prod.ext (same f).1 (same f).2
  | _ => rfl

end Fields

section Descriptions

variable {d : TypeDefinition} {f : String → String}

theorem TypeDefinition.Regular.mapDescriptions (h : d.Regular) : (d.mapDescriptions f).Regular :=
  h.of_fields h.options memberKeys_mapDescriptions fields_mapDescriptions h.fields

theorem TypeDefinition.given_mapDescriptions : (d.mapDescriptions f).given = d.given := by
  unfold given
  rw [fields_mapDescriptions, List.flatMap_map]
  rfl

end Descriptions

section Replaced

variable {d : TypeDefinition} {o : Options} {g : String → String}

/-- A reference is replaced by nothing only if it is unmarked, and its name is. -/
theorem unmarked_of_remark_eq_empty {r : String} (h : remark g r = "") : Unmarked r ∧ g r = "" := by
  unfold remark at h
  split at h
  · exact absurd h (markedReference_ne_empty _)
  · next unmarked =>
    rw [Bool.not_eq_true] at unmarked
    rw [splitMarker_of_unmarked unmarked] at h
    exact ⟨unmarked, h⟩

namespace TypeDefinition

theorem given_replaced : (d.replaced g).given = d.given.map (remark g) := by
  unfold given
  rw [fields_replaced, List.flatMap_map, List.map_append, List.map_flatMap]
  have fields : ∀ f : Field, (f.replaced g).options.given = f.options.given.map (remark g) :=
    fun f => f.options.given_replaced
  simp only [fields]
  rw [← Options.given_replaced]
  rfl

theorem memberKeys_replaced : (d.replaced g).memberKeys = d.memberKeys := by
  rw [← mapReferences_id]
  exact memberKeys_mapFields _ fun f => ⟨rfl, rfl⟩

theorem Regular.replaced (h : d.Regular) : (d.replaced g).Regular :=
  h.of_fields (h.options.congr rfl rfl) memberKeys_replaced d.fields_replaced fun f hf =>
    (h.fields f hf).congr rfl rfl

theorem exists_of_given_replaced (h : "" ∈ (d.replaced g).given) :
    ∃ x ∈ d.given, x ∈ d.referredNames ∧ g x = "" := by
  rw [given_replaced] at h
  obtain ⟨r, hr, empty⟩ := List.mem_map.mp h
  obtain ⟨unmarked, same⟩ := unmarked_of_remark_eq_empty empty
  have listed := mem_referredNames_of_given hr
  rw [splitMarker_of_unmarked unmarked] at listed
  exact ⟨r, hr, listed, same⟩

end TypeDefinition

end Replaced

section Marked

variable {d : TypeDefinition} {o : Options} {g : String → String} {r : String}

theorem Options.given_mapMarkedInOptions
    (h : r ∈ (TypeDefinition.mapMarkedInOptions (m := Id) g o).given) :
    r ∈ o.given ∨ ∃ source, r = g source := by
  have one : ∀ a, unmark g a = a ∨ ∃ source, unmark g a = g source := by
    intro a
    unfold unmark
    split
    · exact Or.inr ⟨_, rfl⟩
    · exact Or.inl rfl
  rw [Options.mapMarkedInOptions_id] at h
  simp only [given, List.mem_append, Option.mem_toList, Option.map_eq_some_iff] at h ⊢
  rcases h with ((⟨a, ha, rfl⟩ | ⟨a, ha, rfl⟩) | source) | pointer
  · rcases one a with same | replaced
    · rw [same]
      tauto
    · exact Or.inr replaced
  · rcases one a with same | replaced
    · rw [same]
      tauto
    · exact Or.inr replaced
  · tauto
  · tauto

namespace TypeDefinition

theorem memberKeys_mapMarkedReferences :
    (d.mapMarkedReferences (m := Id) g).memberKeys = d.memberKeys :=
  memberKeys_mapFields _ fun _ => ⟨rfl, rfl⟩

theorem Regular.mapMarkedReferences (h : d.Regular) :
    (d.mapMarkedReferences (m := Id) g).Regular := by
  have options : ∀ {o : Options}, o.Regular → (mapMarkedInOptions (m := Id) g o).Regular := by
    intro o h
    rw [Options.mapMarkedInOptions_id]
    exact h.congr rfl rfl
  exact h.of_fields (options h.options) memberKeys_mapMarkedReferences
    fields_mapMarkedReferences fun f hf => options (h.fields f hf)

theorem given_mapMarkedReferences (h : r ∈ (d.mapMarkedReferences (m := Id) g).given) :
    r ∈ d.given ∨ ∃ source, r = g source := by
  rcases List.mem_append.mp h with own | inFields
  · exact (Options.given_mapMarkedInOptions own).imp_left fun kept => List.mem_append_left _ kept
  · rw [fields_mapMarkedReferences, List.flatMap_map] at inFields
    obtain ⟨f, hf, member⟩ := List.mem_flatMap.mp inFields
    refine (Options.given_mapMarkedInOptions member).imp_left fun kept => ?_
    exact List.mem_append_right _ (List.mem_flatMap.mpr ⟨f, hf, kept⟩)

end TypeDefinition

end Marked

/-- Types that can be written if none of them is without a name. -/
structure Recordable (types : List TypeDefinition) : Prop where
  regular : ∀ d ∈ types, d.Regular
  named : "" ∉ types.map (·.name) → ∀ d ∈ types, "" ∉ d.given

namespace Recordable

variable {types : List TypeDefinition} (recordable : Recordable types)
include recordable

theorem writable (named : "" ∉ types.map (·.name)) : ∀ d ∈ types, d.Writable := fun d hd =>
  TypeDefinition.writable_iff.mpr ⟨recordable.regular d hd, recordable.named named d hd⟩

theorem mapDescriptions (f : String → String) :
    Recordable (types.map (TypeDefinition.mapDescriptions f)) := by
  constructor
  · intro e he
    obtain ⟨d, hd, rfl⟩ := List.mem_map.mp he
    exact (recordable.regular d hd).mapDescriptions
  · intro named e he
    obtain ⟨d, hd, rfl⟩ := List.mem_map.mp he
    rw [TypeDefinition.given_mapDescriptions]
    refine recordable.named (fun unnamed => named ?_) d hd
    rw [List.map_map]
    exact unnamed

end Recordable

section Unfolding

namespace Extensions.Derives

variable {types : List TypeDefinition} {key : String} {e : TypeDefinition}

theorem fields_eq_nil (h : Derives types key e) : e.fields = [] := by
  cases h with
  | own => rfl
  | listed _ _ derived =>
    obtain ⟨⟨items, kind⟩, -⟩ := TypeDefinition.toEnumeration_eq_ok derived
    rw [TypeDefinition.fields, kind]
    rfl

/-- The options are those of a declared type, or hardly any. -/
theorem options_cases (h : Derives types key e) :
    (∃ d ∈ types, e.options = d.options) ∨ ∃ byId, e.options = { byId } := by
  cases h with
  | own declared _ => exact Or.inl ⟨_, declared, rfl⟩
  | listed declared _ derived =>
    rcases (TypeDefinition.toEnumeration_eq_ok derived).2 with rfl | ⟨-, options⟩
    · exact Or.inl ⟨_, declared, rfl⟩
    · exact Or.inr ⟨_, options⟩

theorem regular (recordable : Recordable types) (h : Derives types key e) : e.Regular := by
  refine ⟨h.wellFormed fun d hd => (recordable.regular d hd).wellFormed, ?_, ?_⟩
  · rcases h.options_cases with ⟨d, hd, same⟩ | ⟨byId, same⟩ <;> rw [same]
    · exact (recordable.regular d hd).options
    · exact Options.writable_empty.toRegular.congr rfl rfl
  · rw [h.fields_eq_nil]
    simp

theorem given {r : String} (h : Derives types key e) (hr : r ∈ e.given) :
    ∃ d ∈ types, r ∈ d.given := by
  rw [TypeDefinition.given, h.fields_eq_nil, List.flatMap_nil, List.append_nil] at hr
  rcases h.options_cases with ⟨d, hd, same⟩ | ⟨byId, same⟩ <;> rw [same] at hr
  · exact ⟨d, hd, List.mem_append_left _ hr⟩
  · simp [Options.given] at hr

/-- A derived enumeration without a name is that of a type without a name. -/
theorem unnamed (h : Derives types key e) (unnamed : e.name = "") : "" ∈ types.map (·.name) := by
  cases h with
  | own declared _ => exact List.mem_map.mpr ⟨_, declared, unnamed⟩
  | listed declared _ derived =>
    rcases (TypeDefinition.toEnumeration_eq_ok derived).2 with rfl | ⟨name, -⟩
    · exact List.mem_map.mpr ⟨_, declared, unnamed⟩
    · have text := congrArg String.toList (name.symm.trans unnamed)
      simp [TypeDefinition.enumerationName] at text

theorem name_eq (h : Derives types key e) (unmarked : Unmarked key) : e.name = key := by
  cases h with
  | own _ _ => rfl
  | listed _ marked _ => exact absurd marked unmarked.not_marked

end Extensions.Derives

namespace Schema

variable {s u : Schema} {d : TypeDefinition}

theorem derives_withItems (derived : Extensions.ofTypes s.types = .ok s.extensions) :
    s.withItems d = d ∨ ∃ e, Extensions.Derives s.types d.name e ∧
      s.withItems d = e.withOptions { e.options with enumeration := none, pointer := none } := by
  unfold withItems
  cases found : s.extensions.lookup d.name with
  | none => exact Or.inl rfl
  | some e => exact Or.inr ⟨e, Extensions.derives_ofTypes derived _ _ found, rfl⟩

section Listed

variable (derived : Extensions.ofTypes s.types = .ok s.extensions) (hd : d ∈ s.types)
include derived

theorem name_withItems (unmarked : Unmarked d.name) : (s.withItems d).name = d.name := by
  rcases derives_withItems derived with same | ⟨e, own, same⟩ <;> rw [same]
  exact own.name_eq unmarked

include hd

theorem regular_withItems (recordable : Recordable s.types) : (s.withItems d).Regular := by
  rcases derives_withItems derived with same | ⟨e, own, same⟩ <;> rw [same]
  · exact recordable.regular d hd
  · have regular := own.regular recordable
    exact ⟨regular.wellFormed.of_memberKeys_eq rfl, regular.options.congr rfl rfl, regular.fields⟩

theorem given_withItems {r : String} (hr : r ∈ (s.withItems d).given) :
    ∃ d ∈ s.types, r ∈ d.given := by
  rcases derives_withItems derived with same | ⟨e, own, same⟩ <;> rw [same] at hr
  · exact ⟨d, hd, hr⟩
  · refine own.given ?_
    rcases List.mem_append.mp hr with inOptions | inFields
    · refine List.mem_append_left _ ?_
      simp only [TypeDefinition.withOptions, Options.given, List.mem_append, Option.mem_toList]
        at inOptions ⊢
      tauto
    · exact List.mem_append_right _ inFields

end Listed

theorem recordable_unfold (derived : Extensions.ofTypes s.types = .ok s.extensions)
    (recordable : Recordable s.types) {order : HashOrder} (h : s.unfold order = .ok u) :
    Recordable u.types := by
  rw [(unfold_eq_ok h).types_eq]
  have added : ∀ e ∈ s.addedTypes.values, ∃ key, Extensions.Derives s.types key e := by
    intro e he
    obtain ⟨⟨n, _⟩, entry, rfl⟩ := List.mem_map.mp he
    obtain ⟨-, -, x, found⟩ := addedFrom_addedTypes n _ entry
    exact ⟨_, Extensions.derives_ofTypes derived _ _ found⟩
  constructor
  · intro e he
    rcases List.mem_append.mp he with own | new
    · obtain ⟨d, hd, rfl⟩ := List.mem_map.mp own
      exact (regular_withItems derived hd recordable).mapMarkedReferences
    · obtain ⟨key, new⟩ := added e new
      exact new.regular recordable
  · intro named
    have named' : "" ∉ s.types.map (·.name) := by
      intro unnamed
      obtain ⟨d, hd, name⟩ := List.mem_map.mp unnamed
      have same : (s.unfoldedType d).name = d.name :=
        name_withItems derived (name ▸ rfl)
      refine named (List.mem_map.mpr ⟨s.unfoldedType d, ?_, same.trans name⟩)
      exact List.mem_append_left _ (List.mem_map_of_mem hd)
    have nowhere : ¬ ∃ d ∈ s.types, "" ∈ d.given :=
      fun ⟨d, hd, member⟩ => recordable.named named' d hd member
    intro e he member
    rcases List.mem_append.mp he with own | new
    · obtain ⟨d, hd, rfl⟩ := List.mem_map.mp own
      rcases TypeDefinition.given_mapMarkedReferences member with kept | ⟨source, empty⟩
      · exact nowhere (given_withItems derived hd kept)
      · unfold unfoldedName at empty
        cases found : s.extensions.lookup (markedReference source) with
        | none =>
          rw [found] at empty
          exact markedReference_ne_empty source empty.symm
        | some e =>
          rw [found] at empty
          exact named' ((Extensions.derives_ofTypes derived _ _ found).unnamed empty.symm)
    · obtain ⟨key, new⟩ := added e new
      exact nowhere (new.given member)

end Schema

end Unfolding

section Importing

namespace Import

variable {src : Sources} {Good : String → Prop} {st st₁ st₂ st' : State}

theorem Sources.Renames.ne_empty {key : String × String} {name : String}
    (h : src.Renames key name) : name ≠ "" := by
  obtain ⟨label, d, -, -, rfl⟩ := h
  intro empty
  have text := congrArg String.toList empty
  simp [collisionName_toList] at text

/-- The own name of a definition that was met is used, unless another one may be renamed to
it. -/
def State.OwnUsed (src : Sources) (st : State) : Prop :=
  ∀ key, (st.memo key).isSome → (∀ other, ¬ src.Renames other key.2) →
    st.isUsed src.base key.2 = true

namespace Round

variable {key : String × String} {source : TypeDefinition} {provisional result : String}
  (round : Round src Good st st₁ st₂ key source provisional result st')
include round

theorem ownUsed₁ (h : st.OwnUsed src) : st₁.OwnUsed src := by
  have grown : ∀ name, st.isUsed src.base name = true → st₁.isUsed src.base name = true :=
    fun name used => round.isUsed₁_iff.mpr (Or.inl used)
  intro k met kept
  rw [round.memo₁] at met
  split at met
  · next same =>
    subst same
    rcases round.named with ⟨used, -⟩ | ⟨-, own⟩
    · exact grown _ used
    · exact own ▸ round.sound₁.used k provisional round.memo₁_key
  · exact grown _ (h k met kept)

/-- Only a name that a definition was renamed to is given up. -/
theorem ownUsedAfter (h : st₂.OwnUsed src) : st'.OwnUsed src := by
  intro k met kept
  have met₂ : (st₂.memo k).isSome := by
    by_cases same : k = key
    · rw [same, round.memo₂_key]
      rfl
    · rwa [← round.memo_of_ne same]
  rcases round.ended.isUsed k.2 (h k met₂ kept) with used | givenUp
  · exact used
  · have other : provisional ≠ key.2 := givenUp.name_eq ▸ givenUp.apart
    exact absurd (givenUp.name_eq ▸ (round.renamed other).2) (kept key)

end Round

theorem importName_keepsOwnUsed (naming : Names src Good) (fuel : Nat) :
    Keeps src (fun s => Sound src Good s ∧ s.OwnUsed src) (importName src fuel) := by
  induction fuel with
  | zero =>
    intro package label name chain st result st' _ _ h
    cases h
  | succ fuel ih =>
    rintro package label name chain st result st' labelled ⟨sound, own⟩ h
    rcases importName_eq_ok h with ⟨-, rfl⟩ | followed
    · exact ⟨sound, own⟩
    · obtain ⟨st₁, st₂, source, provisional, schema, names, round, found, run⟩ :=
        round_of_followed naming (importName_run naming fuel) labelled sound followed
      obtain ⟨-, own₂⟩ := followAll_keeps ih found labelled ⟨round.sound₁, round.ownUsed₁ own⟩ run
      exact ⟨round.soundAfter, round.ownUsedAfter own₂⟩

/-- A definition of the result is one of the base or a copy of one that was discovered, and no
reference is replaced by an empty name that is not declared. -/
theorem Resulted.recordable {r : Schema} (result : Resulted src Good st r)
    (naming : Names src Good) {types : List TypeDefinition}
    (followed : (baseTypes src).run {} = .ok (types, st)) (base : Recordable src.base.types)
    (packages : ∀ key d, src.definition? key = some d → d.Regular) : Recordable r.types := by
  obtain ⟨found, copies, explored⟩ := baseTypes_explores naming followed
  obtain ⟨-, own⟩ := baseTypes_keeps (importName_keepsOwnUsed naming)
    (⟨sound_empty, fun key met => by cases met⟩ : Sound src Good {} ∧ State.OwnUsed src {}) followed
  have parts : ∀ e ∈ r.types, (∃ d ∈ src.base.types, d.replaced (st.baseName src) = e) ∨
      ∃ c ∈ copies, c.2 = e := by
    intro e he
    rw [result.types_eq explored, List.mem_append] at he
    exact he.imp List.mem_map.mp List.mem_map.mp
  constructor
  · intro e he
    rcases parts e he with ⟨d, hd, rfl⟩ | ⟨c, hc, rfl⟩
    · exact (base.regular d hd).replaced
    · obtain ⟨⟨d, g, declared, -, same, -⟩, -⟩ := explored.copied c hc
      have regular := (packages c.1 d declared).replaced (g := g)
      rw [same]
      exact ⟨regular.wellFormed.of_memberKeys_eq rfl, regular.options, regular.fields⟩
  · intro named e he member
    have unused : st.isUsed src.base "" = true → False :=
      fun used => named (result.mem_typeNames_of_isUsed used)
    rcases parts e he with ⟨d, hd, rfl⟩ | ⟨c, hc, rfl⟩
    · obtain ⟨x, hx, -, empty⟩ := TypeDefinition.exists_of_given_replaced member
      cases noted : (src.baseTarget? x).bind st.memo with
      | none =>
        have same : x = "" := by simpa [State.baseName, noted] using empty
        refine base.named (fun unnamed => unused ?_) d hd (same ▸ hx)
        simp [State.isUsed, Schema.get?, declared?_isSome_iff.mpr unnamed]
      | some name =>
        obtain ⟨key, -, met⟩ := Option.bind_eq_some_iff.mp noted
        have same : name = "" := by simpa [State.baseName, noted] using empty
        exact unused (same ▸ result.sound.used key name met)
    · obtain ⟨⟨d, g, declared, -, same, follows⟩, noted⟩ := explored.copied c hc
      rw [same] at member
      obtain ⟨x, -, hx, empty⟩ := TypeDefinition.exists_of_given_replaced member
      rcases follows x hx with ⟨isBase, kept⟩ | ⟨target, leads, -, own' | renames⟩
      · rw [← kept, empty] at isBase
        cases isBase
      · have next : target ∈ src.next c.1 := by
          simp only [Sources.next, declared, Option.map_some, Option.getD_some]
          exact List.mem_filterMap.mpr ⟨x, hx, leads⟩
        have reached : c.1 ∈ found := explored.order.subset (List.mem_map_of_mem hc)
        have met : target ∈ st.met := by
          rw [explored.met]
          exact explored.discovers.closed.2 c.1 reached target next
        have blank : target.2 = "" := own' ▸ empty
        exact unused (blank ▸ own target met fun other renames => renames.ne_empty blank)
      · exact renames.ne_empty empty

end Import

end Importing

end Jadn
