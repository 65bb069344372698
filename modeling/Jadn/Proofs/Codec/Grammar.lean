import Jadn.Proofs.Binary64.Grammar
import Jadn.Proofs.Codec.Options
import Mathlib.Data.List.Perm.Lattice

/-!
Which lists are lists of options, and what they are read as.

Items are read from left to right, and a tag that occurred before is refused. Yet what is read does
not depend on the order of the items with a meaning: an option is set as its item says, if there is
one, and what comes from items without a meaning is their order among themselves.
-/

set_option autoImplicit false

namespace Jadn

/-- The payloads of a tag: flags have none, names are not empty, and bounds are literals. -/
def Tag.Fits : Tag → String → Prop
  | .dir, payload | .key, payload | .link, payload | .byId, payload | .unique, payload
  | .unorderedUnique, payload | .unordered, payload | .extensible, payload => payload = ""
  | .vtype, payload | .ktype, payload | .enumeration, payload | .pointer, payload
  | .format, payload => payload ≠ ""
  | .minc, payload | .maxc, payload | .tagid, payload | .minv, payload
  | .maxv, payload => Numeral.IsWord payload
  | .minf, payload | .maxf, payload => Binary64.IsFinite payload
  | .pattern, _ | .defaultValue, _ => True

namespace Options

def tag? (item : String) : Option Tag := item.toList.head?.bind Tag.ofChar?

def isUnknown (item : String) : Bool := item.toList.head?.any fun c => (Tag.ofChar? c).isNone

/-- A list of options: no item is empty, no tag with a meaning occurs twice, and every payload is
one of its tag. -/
structure Readable (items : List String) : Prop where
  nonempty : "" ∉ items
  once : (items.filterMap tag?).Nodup
  fits : ∀ tag payload, withTag tag payload ∈ items → tag.Fits payload

section Items

variable {tag : Tag} {item payload : String}

@[simp] theorem tag?_withTag : tag? (withTag tag payload) = some tag := by
  simp [tag?, withTag_toList]

@[simp] theorem isUnknown_withTag : isUnknown (withTag tag payload) = false := by
  simp [isUnknown, withTag_toList]

theorem isUnknown_iff : isUnknown item = true ↔ IsUnknown item := by
  unfold isUnknown IsUnknown
  cases item.toList with
  | nil => simp
  | cons c cs => simp

theorem tag?_of_isUnknown (unknown : IsUnknown item) : tag? item = none := by
  obtain ⟨c, payload, text, meaningless⟩ := unknown
  simp [tag?, text, meaningless]

theorem withTag_injective {tag' : Tag} {payload' : String}
    (same : withTag tag payload = withTag tag' payload') : tag = tag' ∧ payload = payload' := by
  have tags : some tag = some tag' := by rw [← tag?_withTag, same, tag?_withTag]
  obtain rfl := Option.some.inj tags
  have lists := congrArg String.toList same
  rw [withTag_toList, withTag_toList, List.cons.injEq] at lists
  exact ⟨rfl, String.toList_inj.mp lists.2⟩

/-- An item is empty, or its tag has no meaning, or it is that of an option. -/
theorem item_cases (item : String) :
    item = "" ∨ IsUnknown item ∨ ∃ tag payload, item = withTag tag payload := by
  cases text : item.toList with
  | nil => exact .inl (String.toList_inj.mp text)
  | cons c payload =>
    cases known : Tag.ofChar? c with
    | none => exact .inr (.inl ⟨c, payload, text, known⟩)
    | some tag =>
      refine .inr (.inr ⟨tag, String.ofList payload, String.toList_inj.mp ?_⟩)
      rw [text, withTag_toList, String.toList_ofList, Tag.ofChar?_eq_some_iff.mp known]

theorem withTag_ne_empty : withTag tag payload ≠ "" := by
  intro empty
  have text := congrArg String.toList empty
  rw [withTag_toList] at text
  cases text

end Items

section Payloads

variable {item payload : String}

theorem exists_flag_iff : (∃ b, flag item payload = .ok b) ↔ payload = "" := by
  unfold flag
  split <;> simp_all

theorem exists_named_iff : (∃ s, named item payload = .ok s) ↔ payload ≠ "" := by
  unfold named
  split <;> simp_all

theorem exists_integer_iff : (∃ n, integer item payload = .ok n) ↔ Numeral.IsWord payload := by
  rw [← Numeral.isSome_int64?_iff]
  unfold integer
  split <;> simp_all

theorem exists_real_iff : (∃ x, real item payload = .ok x) ↔ Binary64.IsFinite payload := by
  rw [← Binary64.isSome_real?_iff]
  unfold real
  split <;> simp_all

end Payloads

section Setting

variable {o o' p p' : Options} {tag : Tag} {item payload : String}

theorem exists_set_iff : (∃ o', o.set item payload tag = .ok o') ↔ tag.Fits payload := by
  have step : ∀ {α : Type} {x : Except ParseError α} {f : α → Options},
      (∃ o', (do return f (← x) : Except ParseError Options) = .ok o') ↔ ∃ a, x = .ok a := by
    intro α x f
    cases x with
    | error e =>
      refine iff_of_false ?_ nofun
      rintro ⟨_, failed⟩
      cases failed
    | ok a => exact iff_of_true ⟨f a, rfl⟩ ⟨a, rfl⟩
  cases tag
  case minc | maxc | tagid | minv | maxv => exact step.trans exists_integer_iff
  case dir | key | link | byId | unique | unorderedUnique | unordered | extensible =>
    exact step.trans exists_flag_iff
  case vtype | ktype | enumeration | pointer | format => exact step.trans exists_named_iff
  case minf | maxf => exact step.trans exists_real_iff
  case pattern => exact iff_of_true ⟨{ o with pattern := some payload }, rfl⟩ trivial
  case defaultValue => exact iff_of_true ⟨{ o with defaultValue := some payload }, rfl⟩ trivial

theorem set_eq_carry (stored : o.set item payload tag = .ok o') : o' = carry o' o tag := by
  cases tag
  case pattern | defaultValue =>
    cases stored
    rfl
  all_goals
    obtain ⟨value, -, same⟩ := Except.bind_eq_ok_iff.mp stored
    cases same
    rfl

theorem item?_set_of_ne {tag' : Tag} (other : tag' ≠ tag)
    (stored : o.set item payload tag = .ok o') : o'.item? tag' = o.item? tag' := by
  rw [set_eq_carry stored, item?_carry_of_ne other]

theorem unknown_set (stored : o.set item payload tag = .ok o') : o'.unknown = o.unknown := by
  rw [set_eq_carry stored]
  cases tag <;> rfl

theorem item?_set (stored : o.set item payload tag = .ok o')
    (stored' : p.set item payload tag = .ok p') : o'.item? tag = p'.item? tag := by
  cases tag
  case pattern | defaultValue =>
    cases stored
    cases stored'
    rfl
  all_goals
    obtain ⟨value, read, same⟩ := Except.bind_eq_ok_iff.mp stored
    obtain ⟨value', read', same'⟩ := Except.bind_eq_ok_iff.mp stored'
    rw [read, Except.ok.injEq] at read'
    subst read'
    cases same
    cases same'
    rfl

end Setting

section Lists

variable {o o' : Options} {seen : List Tag}

theorem add_of_seen {tag : Tag} {payload : String} (before : tag ∈ seen) :
    ∃ e, o.add seen (withTag tag payload) = .error e := by
  refine ⟨.inText (.duplicateOption tag.char) (withTag tag payload), ?_⟩
  simp only [add, withTag_toList, Tag.ofChar?_char, if_pos before]

theorem exists_add_withTag_iff {tag : Tag} {payload : String} {P : Options × List Tag → Prop} :
    (∃ next, o.add seen (withTag tag payload) = .ok next ∧ P next) ↔
      tag ∉ seen ∧ ∃ o', o.set (withTag tag payload) payload tag = .ok o' ∧ P (o', tag :: seen) := by
  by_cases before : tag ∈ seen
  · obtain ⟨e, failed⟩ : ∃ e, o.add seen (withTag tag payload) = .error e := add_of_seen before
    simp [failed, before]
  · constructor
    · rintro ⟨next, added, holds⟩
      simp only [add, withTag_toList, Tag.ofChar?_char, if_neg before, String.ofList_toList] at added
      obtain ⟨o', stored, same⟩ := Except.bind_eq_ok_iff.mp added
      cases same
      exact ⟨before, o', stored, holds⟩
    · rintro ⟨-, o', stored, holds⟩
      exact ⟨_, add_withTag before stored, holds⟩

theorem readable_nil : Readable [] := ⟨List.not_mem_nil, List.nodup_nil, nofun⟩

theorem readable_cons_unknown {item : String} {items : List String} (unknown : IsUnknown item) :
    Readable (item :: items) ↔ Readable items := by
  have tags : (item :: items).filterMap tag? = items.filterMap tag? :=
    List.filterMap_cons_none (tag?_of_isUnknown unknown)
  constructor
  · intro h
    exact ⟨fun member => h.nonempty (List.mem_cons_of_mem _ member), tags ▸ h.once,
      fun tag payload member => h.fits tag payload (List.mem_cons_of_mem _ member)⟩
  · intro h
    refine ⟨fun member => ?_, tags ▸ h.once, fun tag payload member => ?_⟩
    · rcases List.mem_cons.mp member with rfl | later
      · obtain ⟨c, payload, text, -⟩ := unknown
        cases text
      · exact h.nonempty later
    · rcases List.mem_cons.mp member with rfl | later
      · rw [← isUnknown_iff, isUnknown_withTag] at unknown
        cases unknown
      · exact h.fits tag payload later

theorem readable_cons_withTag {tag : Tag} {payload : String} {items : List String} :
    Readable (withTag tag payload :: items) ↔
      tag.Fits payload ∧ tag ∉ items.filterMap tag? ∧ Readable items := by
  have tags : (withTag tag payload :: items).filterMap tag? = tag :: items.filterMap tag? :=
    List.filterMap_cons_some tag?_withTag
  constructor
  · intro h
    have once := h.once
    rw [tags, List.nodup_cons] at once
    exact ⟨h.fits tag payload List.mem_cons_self, once.1,
      fun member => h.nonempty (List.mem_cons_of_mem _ member), once.2,
      fun tag' payload' member => h.fits tag' payload' (List.mem_cons_of_mem _ member)⟩
  · rintro ⟨fits, fresh, h⟩
    refine ⟨fun member => ?_, tags ▸ List.nodup_cons.mpr ⟨fresh, h.once⟩,
      fun tag' payload' member => ?_⟩
    · rcases List.mem_cons.mp member with empty | later
      · exact withTag_ne_empty empty.symm
      · exact h.nonempty later
    · rcases List.mem_cons.mp member with own | later
      · obtain ⟨rfl, rfl⟩ := withTag_injective own
        exact fits
      · exact h.fits tag' payload' later

theorem addAll_cons_eq_ok_iff {item : String} {items : List String} :
    o.addAll seen (item :: items) = .ok o' ↔
      ∃ next, o.add seen item = .ok next ∧ next.1.addAll next.2 items = .ok o' :=
  Except.bind_eq_ok_iff

theorem exists_addAll_cons_iff {item : String} {items : List String} :
    (∃ o', o.addAll seen (item :: items) = .ok o') ↔
      ∃ next, o.add seen item = .ok next ∧ ∃ o', next.1.addAll next.2 items = .ok o' := by
  simp only [addAll_cons_eq_ok_iff]
  rw [exists_comm]
  simp only [exists_and_left]

/-- Items are read if they make up a list of options and none of their tags occurred before. -/
theorem exists_addAll_iff {items : List String} :
    (∃ o', o.addAll seen items = .ok o') ↔
      Readable items ∧ ∀ tag ∈ items.filterMap tag?, tag ∉ seen := by
  induction items generalizing o seen with
  | nil => exact iff_of_true ⟨o, rfl⟩ ⟨readable_nil, nofun⟩
  | cons item items ih =>
    rw [exists_addAll_cons_iff]
    rcases item_cases item with rfl | unknown | ⟨tag, payload, rfl⟩
    · refine iff_of_false ?_ fun h => h.1.nonempty List.mem_cons_self
      rintro ⟨next, added, -⟩
      cases added
    · simp only [add_unknown unknown, Except.ok.injEq, exists_eq_left', ih,
        readable_cons_unknown unknown, List.filterMap_cons_none (tag?_of_isUnknown unknown)]
    · have settable : (∃ o', o.set (withTag tag payload) payload tag = .ok o') ↔
          tag.Fits payload := exists_set_iff
      rw [exists_add_withTag_iff, readable_cons_withTag, List.filterMap_cons_some tag?_withTag,
        ← settable]
      simp only [ih, List.mem_cons, not_or, forall_eq_or_imp]
      constructor
      · rintro ⟨fresh, o', stored, readable, others⟩
        exact ⟨⟨⟨o', stored⟩, fun member => (others tag member).1 rfl, readable⟩, fresh,
          fun tag' member => (others tag' member).2⟩
      · rintro ⟨⟨⟨o', stored⟩, apart, readable⟩, fresh, others⟩
        refine ⟨fresh, o', stored, readable, fun tag' member => ⟨?_, others tag' member⟩⟩
        rintro rfl
        exact apart member

/-- What a list of options says, whatever the order of the items with a meaning: each option is as
its item sets it, if there is one, and the items without a meaning are kept. -/
structure Says (items : List String) (o : Options) : Prop where
  given : ∀ tag payload, withTag tag payload ∈ items →
    ∃ p, empty.set (withTag tag payload) payload tag = .ok p ∧ o.item? tag = p.item? tag
  absent : ∀ tag, tag ∉ items.filterMap tag? → o.item? tag = none
  unknown : o.unknown = items.filter isUnknown

theorem mem_filterMap_tag?_iff {items : List String} {tag : Tag} :
    tag ∈ items.filterMap tag? ↔ ∃ payload, withTag tag payload ∈ items := by
  rw [List.mem_filterMap]
  constructor
  · rintro ⟨item, member, tagged⟩
    rcases item_cases item with rfl | unknown | ⟨tag', payload, rfl⟩
    · cases tagged
    · rw [tag?_of_isUnknown unknown] at tagged
      cases tagged
    · rw [tag?_withTag] at tagged
      cases tagged
      exact ⟨payload, member⟩
  · rintro ⟨payload, member⟩
    exact ⟨_, member, tag?_withTag⟩

/-- What reading the rest of a list adds to what was read so far. -/
theorem addAll_spec {items : List String} (read : o.addAll seen items = .ok o') :
    (∀ tag payload, withTag tag payload ∈ items →
      ∃ p, empty.set (withTag tag payload) payload tag = .ok p ∧ o'.item? tag = p.item? tag) ∧
    (∀ tag, tag ∉ items.filterMap tag? → o'.item? tag = o.item? tag) ∧
    o'.unknown = o.unknown ++ items.filter isUnknown := by
  induction items generalizing o seen with
  | nil =>
    cases read
    exact ⟨nofun, fun _ _ => rfl, (List.append_nil _).symm⟩
  | cons item items ih =>
    obtain ⟨next, added, rest⟩ := addAll_cons_eq_ok_iff.mp read
    obtain ⟨given, absent, unknown⟩ := ih rest
    rcases item_cases item with rfl | meaningless | ⟨tag, payload, rfl⟩
    · cases added
    · rw [add_unknown meaningless] at added
      cases added
      refine ⟨fun tag payload member => ?_, fun tag other => ?_, ?_⟩
      · rcases List.mem_cons.mp member with rfl | later
        · rw [← isUnknown_iff, isUnknown_withTag] at meaningless
          cases meaningless
        · exact given tag payload later
      · rw [List.filterMap_cons_none (tag?_of_isUnknown meaningless)] at other
        rw [absent tag other]
        cases tag <;> rfl
      · rw [unknown, List.filter_cons_of_pos (isUnknown_iff.mpr meaningless),
          List.append_assoc, List.singleton_append]
    · obtain ⟨-, next', stored, rfl⟩ := exists_add_withTag_iff.mp ⟨next, added, rfl⟩
      -- The tag does not occur again, so its option stays as it is set here.
      have apart : tag ∉ items.filterMap tag? := fun member =>
        (exists_addAll_iff.mp ⟨o', rest⟩).2 tag member List.mem_cons_self
      refine ⟨fun tag' payload' member => ?_, fun tag' other => ?_, ?_⟩
      · rcases List.mem_cons.mp member with own | later
        · obtain ⟨rfl, rfl⟩ := withTag_injective own
          obtain ⟨p, alone⟩ := exists_set_iff.mpr (exists_set_iff.mp ⟨next', stored⟩)
          exact ⟨p, alone, (absent tag' apart).trans (item?_set stored alone)⟩
        · exact given tag' payload' later
      · rw [List.filterMap_cons_some tag?_withTag, List.mem_cons, not_or] at other
        rw [absent tag' other.2, item?_set_of_ne other.1 stored]
      · rw [unknown, unknown_set stored, List.filter_cons_of_neg (by simp)]

theorem says_of_ofList {items : List String} {o : Options} (read : ofList items = .ok o) :
    Says items o := by
  obtain ⟨given, absent, unknown⟩ := addAll_spec read
  refine ⟨given, fun tag other => (absent tag other).trans ?_, unknown⟩
  cases tag <;> rfl

section Order

variable {items items' : List String} (permuted : items.Perm items')
include permuted

theorem Readable.of_perm (h : Readable items) : Readable items' where
  nonempty := fun member => h.nonempty (permuted.mem_iff.mpr member)
  once := (permuted.filterMap tag?).nodup_iff.mp h.once
  fits := fun tag payload member => h.fits tag payload (permuted.mem_iff.mpr member)

theorem Says.of_perm {o : Options} (kept : items.filter isUnknown = items'.filter isUnknown)
    (h : Says items o) : Says items' o where
  given := fun tag payload member => h.given tag payload (permuted.mem_iff.mpr member)
  absent := fun tag other => h.absent tag fun member =>
    other ((permuted.filterMap tag?).mem_iff.mp member)
  unknown := h.unknown.trans kept

end Order

/-- A list says one thing only. -/
theorem Says.toList_eq {items : List String} {o p : Options} (h : Says items o)
    (h' : Says items p) : o.toList = p.toList := by
  have same : o.item? = p.item? := by
    funext tag
    by_cases member : tag ∈ items.filterMap tag?
    · obtain ⟨payload, own⟩ := mem_filterMap_tag?_iff.mp member
      obtain ⟨q, alone, value⟩ := h.given tag payload own
      obtain ⟨q', alone', value'⟩ := h'.given tag payload own
      obtain rfl := Except.ok.inj (alone.symm.trans alone')
      rw [value, value']
    · rw [h.absent tag member, h'.absent tag member]
  rw [toList, toList, same, h.unknown, h'.unknown]

end Lists

/-- Reading options accepts the lists of options and no others, and does not depend on the order of
the items with a meaning: lists with the same items, those without a meaning in the same order, are
read as the same options, which are written in one way. -/
theorem ofList_readable (items : List String) :
    ((∃ o, ofList items = .ok o) ↔ Readable items) ∧
      ∀ items', items.Perm items' → items.filter isUnknown = items'.filter isUnknown →
        ∀ o, ofList items = .ok o → ofList items' = .ok o := by
  have accepted : ∀ items, (∃ o, ofList items = .ok o) ↔ Readable items := by
    intro items
    have read : (∃ o, ofList items = .ok o) ↔
        Readable items ∧ ∀ tag ∈ items.filterMap tag?, tag ∉ [] := exists_addAll_iff
    rw [read]
    exact and_iff_left fun _ _ => List.not_mem_nil
  refine ⟨accepted items, fun items' permuted kept o read => ?_⟩
  have readable := ((accepted items).mp ⟨o, read⟩).of_perm permuted
  obtain ⟨p, read'⟩ := (accepted items').mpr readable
  have written := ((says_of_ofList read).of_perm permuted kept).toList_eq (says_of_ofList read')
  have back : ofList o.toList = .ok o := ofList_toList (writable_empty.addAll read)
  have back' : ofList p.toList = .ok p := ofList_toList (writable_empty.addAll read')
  rw [read', ← back', ← written, back]

/-- A list with two items without a meaning, and the same list in another order. -/
theorem ofList_shuffled :
    Readable ["\x7b1", "~x", "q", "*Part", "~y"] ∧ ∃ o,
      ofList ["\x7b1", "~x", "q", "*Part", "~y"] = .ok o ∧
        ofList ["~x", "*Part", "\x7b1", "~y", "q"] = .ok o := by
  obtain ⟨accepted, ordered⟩ := ofList_readable ["\x7b1", "~x", "q", "*Part", "~y"]
  have read : ofList ["\x7b1", "~x", "q", "*Part", "~y"] =
      .ok { minv := some 1, unique := true, vtype := some "Part", unknown := ["~x", "~y"] } := by
    decide +kernel
  exact ⟨accepted.mp ⟨_, read⟩, _, read, ordered _ (by decide) (by decide +kernel) _ read⟩

example : ofList ["y-1e400"] = .error (.inText .optionNotReal "y-1e400") := by decide +kernel

end Options

end Jadn
