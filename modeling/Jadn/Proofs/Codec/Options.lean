import Jadn.Options
import Jadn.Proofs.Binary64.Text
import Jadn.Proofs.Outcome
import Jadn.Proofs.References

/-!
Options read back from the list that they are written as.

A list is read tag by tag in the order in which it is written. Each item sets the option that
it was written for and no other one, so after all tags every option has its value again, and
what follows are the items without a meaning.
-/

set_option autoImplicit false

namespace Jadn

def IsUnknown (item : String) : Prop :=
  ∃ c payload, item.toList = c :: payload ∧ Tag.ofChar? c = none

namespace Options

/-- What every list of options guarantees, references aside: no keyword is empty, and the items
without a meaning are none with a meaning. -/
structure Regular (o : Options) : Prop where
  format : o.format ≠ some ""
  unknown : ∀ item ∈ o.unknown, IsUnknown item

structure Writable (o : Options) : Prop extends Regular o where
  named : "" ∉ o.given

/-- The options `acc` with that of a tag taken over. -/
def carry (o acc : Options) : Tag → Options
  | .minc => { acc with minc := o.minc }
  | .maxc => { acc with maxc := o.maxc }
  | .tagid => { acc with tagid := o.tagid }
  | .dir => { acc with dir := o.dir }
  | .key => { acc with key := o.key }
  | .link => { acc with link := o.link }
  | .byId => { acc with byId := o.byId }
  | .vtype => { acc with vtype := o.vtype }
  | .ktype => { acc with ktype := o.ktype }
  | .enumeration => { acc with enumeration := o.enumeration }
  | .pointer => { acc with pointer := o.pointer }
  | .format => { acc with format := o.format }
  | .pattern => { acc with pattern := o.pattern }
  | .minf => { acc with minf := o.minf }
  | .maxf => { acc with maxf := o.maxf }
  | .minv => { acc with minv := o.minv }
  | .maxv => { acc with maxv := o.maxv }
  | .unique => { acc with unique := o.unique }
  | .unorderedUnique => { acc with unorderedUnique := o.unorderedUnique }
  | .unordered => { acc with unordered := o.unordered }
  | .extensible => { acc with extensible := o.extensible }
  | .defaultValue => { acc with defaultValue := o.defaultValue }

section Payloads

variable {item : String}

theorem flag_empty : flag item "" = .ok true := rfl

theorem named_of_ne {payload : String} (h : payload ≠ "") : named item payload = .ok payload := by
  rw [named, if_neg (by simpa using h)]

theorem integer_toString (n : Int64) : integer item (toString n.toInt) = .ok n := by
  rw [integer, Numeral.int64?_toString]

theorem real_toText (x : Binary64) : real item (x.toText .plain) = .ok x := by
  rw [real, Binary64.real?_toText]

theorem withTag_toList (tag : Tag) (payload : String) :
    (withTag tag payload).toList = tag.char :: payload.toList := by
  simp [withTag]

end Payloads

section Tags

variable {o acc : Options}

theorem set_item (acc : Options) {tag : Tag} {item : String} (writable : o.Writable)
    (h : o.item? tag = some item) :
    ∃ payload, item = withTag tag payload ∧ acc.set item payload tag = .ok (carry o acc tag) := by
  have named : ∀ r ∈ o.given, r ≠ "" := by
    rintro r hr rfl
    exact writable.named hr
  cases tag
  case minc | maxc | tagid | minv | maxv =>
    obtain ⟨n, hn, rfl⟩ := Option.map_eq_some_iff.mp h
    refine ⟨_, rfl, ?_⟩
    rw [set, integer_toString, carry, hn]
    rfl
  case dir | key | link | byId | unique | unorderedUnique | unordered | extensible =>
    obtain ⟨flagged, same⟩ := Option.ite_none_right_eq_some.mp h
    cases same
    refine ⟨"", rfl, ?_⟩
    rw [set, flag_empty, carry, flagged]
    rfl
  case vtype | ktype | enumeration | pointer =>
    obtain ⟨r, hr, rfl⟩ := Option.map_eq_some_iff.mp h
    refine ⟨r, rfl, ?_⟩
    rw [set, named_of_ne (named r (by simp [given, hr])), carry, hr]
    rfl
  case format =>
    obtain ⟨r, hr, rfl⟩ := Option.map_eq_some_iff.mp h
    refine ⟨r, rfl, ?_⟩
    have keyword : r ≠ "" := by
      rintro rfl
      exact writable.format hr
    rw [set, named_of_ne keyword, carry, hr]
    rfl
  case pattern | defaultValue =>
    obtain ⟨r, hr, rfl⟩ := Option.map_eq_some_iff.mp h
    refine ⟨r, rfl, ?_⟩
    rw [set, carry, hr]
    rfl
  case minf | maxf =>
    obtain ⟨x, hx, rfl⟩ := Option.map_eq_some_iff.mp h
    refine ⟨_, rfl, ?_⟩
    rw [set, real_toText, carry, hx]
    rfl

theorem carry_of_none {tag : Tag} (h : o.item? tag = none) (blank : acc.item? tag = none) :
    carry o acc tag = acc := by
  have off : ∀ {b : Bool} {item : String},
      (if b then some item else none) = none → b = false := by
    intro b item h
    cases b with
    | false => rfl
    | true => cases h
  cases tag
  case dir | key | link | byId | unique | unorderedUnique | unordered | extensible =>
    have unset := off h
    have unset' := off blank
    rw [carry, unset, ← unset']
  all_goals
    have unset := Option.map_eq_none_iff.mp h
    have unset' := Option.map_eq_none_iff.mp blank
    rw [carry, unset, ← unset']

theorem item?_carry_of_ne {tag tag' : Tag} (h : tag ≠ tag') :
    (carry o acc tag').item? tag = acc.item? tag := by
  cases tag' <;> cases tag <;> first | rfl | exact absurd rfl h

end Tags

section Lists

variable {o acc : Options} {seen : List Tag}

theorem add_unknown {item : String} (h : IsUnknown item) :
    acc.add seen item = .ok ({ acc with unknown := acc.unknown ++ [item] }, seen) := by
  obtain ⟨c, payload, text, unknown⟩ := h
  simp [add, text, unknown]

theorem add_withTag {tag : Tag} {payload : String} {acc' : Options} (fresh : tag ∉ seen)
    (h : acc.set (withTag tag payload) payload tag = .ok acc') :
    acc.add seen (withTag tag payload) = .ok (acc', tag :: seen) := by
  simp only [add, withTag_toList, Tag.ofChar?_char, if_neg fresh, String.ofList_toList, h]
  rfl

theorem addAll_unknown {items : List String} (h : ∀ item ∈ items, IsUnknown item) :
    acc.addAll seen items = .ok { acc with unknown := acc.unknown ++ items } := by
  induction items generalizing acc with
  | nil =>
    rw [List.append_nil]
    rfl
  | cons item items ih =>
    rw [addAll, add_unknown (h item List.mem_cons_self)]
    have rest : addAll { acc with unknown := acc.unknown ++ [item] } seen items =
        .ok { acc with unknown := acc.unknown ++ [item] ++ items } :=
      ih fun other hother => h other (List.mem_cons_of_mem _ hother)
    rw [List.append_assoc] at rest
    exact rest

/-- The items of some tags are read back one by one, if their options are not set yet. -/
theorem addAll_tags (writable : o.Writable) {tags : List Tag} (distinct : tags.Nodup)
    (fresh : ∀ tag ∈ tags, tag ∉ seen ∧ acc.item? tag = none) {items : List String}
    (unknown : ∀ item ∈ items, IsUnknown item) :
    acc.addAll seen (tags.filterMap o.item? ++ items) =
      .ok { tags.foldl (carry o) acc with
        unknown := (tags.foldl (carry o) acc).unknown ++ items } := by
  induction tags generalizing acc seen with
  | nil => exact addAll_unknown unknown
  | cons tag tags ih =>
    obtain ⟨apart, distinct⟩ := List.nodup_cons.mp distinct
    obtain ⟨unseen, blank⟩ := fresh tag List.mem_cons_self
    rw [List.foldl_cons]
    -- The options of the later tags are not set by this one.
    have later : ∀ seen' : List Tag, (∀ t ∈ seen', t = tag ∨ t ∈ seen) → ∀ t ∈ tags,
        t ∉ seen' ∧ (carry o acc tag).item? t = none := by
      intro seen' known t ht
      have other : t ≠ tag := by
        rintro rfl
        exact apart ht
      obtain ⟨unseen, blank⟩ := fresh t (List.mem_cons_of_mem _ ht)
      refine ⟨fun member => ?_, by rw [item?_carry_of_ne other, blank]⟩
      rcases known t member with same | before
      · exact other same
      · exact unseen before
    cases given : o.item? tag with
    | none =>
      have same := carry_of_none given blank
      rw [List.filterMap_cons_none given]
      have rest := ih distinct (later seen fun t ht => Or.inr ht)
      rwa [same] at rest ⊢
    | some item =>
      obtain ⟨payload, rfl, stored⟩ := set_item acc writable given
      rw [List.filterMap_cons_some given, List.cons_append, addAll, add_withTag unseen stored]
      exact ih distinct (later (tag :: seen) fun t ht => List.mem_cons.mp ht)

theorem all_nodup : Tag.all.Nodup := by decide +kernel

theorem foldl_carry (o : Options) : Tag.all.foldl (carry o) empty = { o with unknown := [] } := by
  simp only [Tag.all, List.foldl_cons, List.foldl_nil, carry, empty]

/-- Options are read back from their list. -/
theorem ofList_toList (writable : o.Writable) : ofList o.toList = .ok o := by
  have blank : ∀ tag ∈ Tag.all, tag ∉ [] ∧ empty.item? tag = none := by
    intro tag _
    refine ⟨List.not_mem_nil, ?_⟩
    cases tag <;> rfl
  have read := addAll_tags writable all_nodup blank writable.unknown
  rw [foldl_carry] at read
  exact read

theorem ofJson_toJson (writable : o.Writable) : ofJson o.toJson = .ok o := by
  simp only [ofJson, toJson, Json.strings, Json.arr?]
  rw [Except.bind_eq_ok_iff]
  refine ⟨o.toList, ?_, ofList_toList writable⟩
  rw [Except.mapM_eq_ok_iff, List.forall₂_map_left_iff]
  exact List.forall₂_same.mpr fun item _ => rfl

end Lists

section Reading

variable {o o' : Options}

theorem ne_empty_of_named {item payload r : String} (h : named item payload = .ok r) : r ≠ "" := by
  unfold named at h
  split at h
  · cases h
  · next nonempty =>
    cases h
    simpa using nonempty

/-- To set an option keeps what can be written. -/
theorem Writable.set {tag : Tag} {item payload : String} (h : o.Writable)
    (stored : o.set item payload tag = .ok o') : o'.Writable := by
  have named := h.named
  simp only [given, List.mem_append, Option.mem_toList, not_or] at named
  obtain ⟨⟨⟨vtype, ktype⟩, enumeration⟩, pointer⟩ := named
  cases tag
  case pattern | defaultValue =>
    cases stored
    exact ⟨⟨h.format, h.unknown⟩, h.named⟩
  case vtype | ktype | enumeration | pointer =>
    obtain ⟨r, given', same⟩ := Except.bind_eq_ok_iff.mp stored
    cases same
    refine ⟨⟨h.format, h.unknown⟩, ?_⟩
    have other := ne_empty_of_named given'
    simp only [given, List.mem_append, Option.mem_toList, not_or,
      Option.some.injEq]
    tauto
  case format =>
    obtain ⟨r, given', same⟩ := Except.bind_eq_ok_iff.mp stored
    cases same
    exact ⟨⟨by simpa using ne_empty_of_named given', h.unknown⟩, h.named⟩
  all_goals
    obtain ⟨value, -, same⟩ := Except.bind_eq_ok_iff.mp stored
    cases same
    exact ⟨⟨h.format, h.unknown⟩, h.named⟩

theorem Writable.add {seen seen' : List Tag} {item : String} (h : o.Writable)
    (added : o.add seen item = .ok (o', seen')) : o'.Writable := by
  unfold Options.add at added
  split at added
  · cases added
  · next c payload text =>
    split at added
    · next unknown =>
      cases added
      refine ⟨⟨h.format, fun other member => ?_⟩, h.named⟩
      rcases List.mem_append.mp member with before | own
      · exact h.unknown other before
      · exact List.mem_singleton.mp own ▸ ⟨c, payload, text, unknown⟩
    · split at added
      · cases added
      · obtain ⟨stored, set, same⟩ := Except.bind_eq_ok_iff.mp added
        cases same
        exact h.set set

theorem Writable.addAll {seen : List Tag} {items : List String} (h : o.Writable)
    (added : o.addAll seen items = .ok o') : o'.Writable := by
  induction items generalizing o seen with
  | nil =>
    cases added
    exact h
  | cons item items ih =>
    obtain ⟨⟨next, seen'⟩, first, rest⟩ := Except.bind_eq_ok_iff.mp added
    exact ih (h.add first) rest

theorem writable_empty : ({} : Options).Writable := by
  refine ⟨⟨by simp, by simp⟩, ?_⟩
  simp [given]

theorem ofJson_writable {value : Json} (h : ofJson value = .ok o) : o.Writable := by
  unfold ofJson at h
  split at h
  · cases h
  · obtain ⟨texts, -, read⟩ := Except.bind_eq_ok_iff.mp h
    exact writable_empty.addAll read

end Reading

end Options

end Jadn
