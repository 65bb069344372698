import Jadn.Proofs.Validation.Acceptance

/-!
The two written forms of maps from strings and of records.

A map is an object or a list of its keys and values in turn, a record is an object or a list of
its values in the order of its fields. Checks read both forms alike. Expansion does not: it goes
on into the values of an object, but leaves a list of keys and values as it is, and also the
values of a record that goes by ids. So an object is accepted as the list of its verbose values
is, and as the list of the values themselves if these fare as their verbose forms do.
-/

set_option autoImplicit false

namespace Jadn

namespace Validation

variable {s : Schema} {inner : Checker} {d : TypeDefinition}

section Pairs

/-- The keys and values of an object in turn. -/
def flat (members : Dict Json) : List Json := members.flatMap fun (key, v) => [.str key, v]

theorem pairs?_flat (members : Dict Json) :
    pairs? (flat members) = some (members.map fun (key, v) => (.str key, v)) := by
  induction members with
  | nil => rfl
  | cons member members ih =>
    simp only [flat, List.flatMap_cons, List.cons_append, List.nil_append, pairs?] at ih ⊢
    rw [ih]
    rfl

theorem entries_flat {k : TypeDefinition} (text : k.baseType = .string) (members : Dict Json) :
    entries d k (.arr (flat members)) = entries d k (.obj members) := by
  have key : ∀ key, valueOfKey k key = .str key := by
    intro key
    simp only [valueOfKey, text]
  simp only [entries, pairs?_flat, key, Option.elim_some]

theorem checkMapOf_flat {k : TypeDefinition} (ktype : d.options.ktype.bind s.lookup? = some k)
    (text : k.baseType = .string) (members : Dict Json) :
    checkMapOf s inner d (.arr (flat members)) = checkMapOf s inner d (.obj members) := by
  have looked : partType s d "ktype" d.options.ktype = .ok k := partType_eq_ok_iff.mpr ktype
  unfold checkMapOf
  rw [looked]
  simp only [Except.bind, bind, entries_flat text]

end Pairs

section Places

/-- The members of a record, given the values of its fields in order and what is made of them. -/
def keyedBy (g : Field → Json → Json) (fields : List Field) (byId : Bool) (values : List Json) :
    Dict Json :=
  (fields.zip values).filterMap fun (f, v) =>
    if v.isNull then none else some (verboseKey f byId, g f v)

def keyed (fields : List Field) (byId : Bool) (values : List Json) : Dict Json :=
  keyedBy (fun _ v => v) fields byId values

theorem keyedBy_eq (g : Field → Json → Json) (fields : List Field) (byId : Bool)
    (values : List Json) : keyedBy g fields byId values =
      ((fields.zip values).filter fun p => !p.2.isNull).map fun p =>
        (verboseKey p.1 byId, g p.1 p.2) := by
  unfold keyedBy
  rw [← List.filterMap_eq_map, List.filterMap_filter]
  refine List.filterMap_congr fun (f, v) _ => ?_
  cases null : v.isNull <;> simp [null]

theorem keyed_cons (f : Field) (fields : List Field) (byId : Bool) (v : Json) (values : List Json) :
    keyed (f :: fields) byId (v :: values) = if v.isNull then keyed fields byId values
      else (verboseKey f byId, v) :: keyed fields byId values := by
  cases null : v.isNull <;> simp [keyed, keyedBy, null]

theorem mem_keyed_iff {fields : List Field} {byId : Bool} {values : List Json} {key : String}
    {v : Json} : (key, v) ∈ keyed fields byId values ↔
      v.isNull = false ∧ ∃ f, (f, v) ∈ fields.zip values ∧ verboseKey f byId = key := by
  simp only [keyed, keyedBy_eq, List.mem_map, List.mem_filter, Prod.mk.injEq]
  constructor
  · rintro ⟨⟨f, _⟩, ⟨paired, some⟩, rfl, rfl⟩
    exact ⟨by simpa using some, f, paired, rfl⟩
  · rintro ⟨some, f, paired, rfl⟩
    exact ⟨(f, v), ⟨paired, by simp [some]⟩, rfl, rfl⟩

theorem rel_keyedBy {R : String × Json → String × Json → Prop} {g h : Field → Json → Json}
    {fields : List Field} {byId : Bool} {values : List Json}
    (related : ∀ p ∈ fields.zip values, p.2.isNull = false →
      R (verboseKey p.1 byId, g p.1 p.2) (verboseKey p.1 byId, h p.1 p.2)) :
    Multiset.Rel R (keyedBy g fields byId values : Multiset (String × Json))
      (keyedBy h fields byId values) := by
  refine rel_of_forall₂ ?_
  rw [keyedBy_eq, keyedBy_eq, List.forall₂_map_left_iff, List.forall₂_map_right_iff,
    List.forall₂_same]
  intro p member
  obtain ⟨hp, some⟩ := List.mem_filter.mp member
  exact related p hp (by simpa using some)

theorem members_arr {fields : List Field} (kind : d.kind = .record fields) {values : List Json}
    (fits : values.length ≤ fields.length) :
    members d (.arr values) = .ok (keyed fields d.options.byId values) := by
  simp only [members, kind, Nat.not_lt.mpr fits, if_false]
  rfl

theorem checkMap_arr {fields : List Field} (kind : d.kind = .record fields) {values : List Json}
    (fits : values.length ≤ fields.length) :
    checkMap s inner d (.arr values) =
      checkMap s inner d (.obj (keyed fields d.options.byId values)) := by
  have read : members d (.obj (keyed fields d.options.byId values)) =
      .ok (keyed fields d.options.byId values) := by
    simp only [members]
  unfold checkMap
  rw [members_arr kind fits, read]

/-- A record that is accepted as an array has a field for each of its values. -/
theorem fits_of_checkMap_arr {values : List Json}
    (accepted : checkMap s inner d (.arr values) = .ok ()) :
    ∃ fields, d.kind = .record fields ∧ values.length ≤ fields.length := by
  obtain ⟨ms, read, -⟩ := Except.bind_eq_ok_iff.mp accepted
  unfold members at read
  split at read
  · cases ‹Json.arr values = .obj _›
  · next fields _ kind same =>
    cases same
    split at read
    · cases read
    · next fits => exact ⟨fields, kind, Nat.le_of_not_lt fits⟩
  · cases read

theorem keysApart_keyed (formed : d.WellFormed) (values : List Json) :
    d.KeysApart (keyed d.fields d.options.byId values).keys := by
  have denotes : ∀ f ∈ d.fields, d.fieldOfKey? (verboseKey f d.options.byId) = some f :=
    fun f hf => formed.denotes_of_prints ⟨hf, rfl⟩
  have ids : d.fields.Pairwise fun f g => f.id ≠ g.id := List.pairwise_map.mp formed.fieldIds
  generalize d.fields = fields at denotes ids
  induction fields generalizing values with
  | nil => exact List.Pairwise.nil
  | cons f fields ih =>
    cases values with
    | nil => exact List.Pairwise.nil
    | cons v values =>
      obtain ⟨first, rest⟩ := List.pairwise_cons.mp ids
      have later := ih values (fun g hg => denotes g (List.mem_cons_of_mem _ hg)) rest
      rw [keyed_cons]
      cases v.isNull with
      | true => exact later
      | false =>
        refine List.pairwise_cons.mpr ⟨?_, later⟩
        intro other member h own theirs
        obtain ⟨⟨_, w⟩, entry, rfl⟩ := List.mem_map.mp member
        obtain ⟨-, g, paired, rfl⟩ := mem_keyed_iff.mp entry
        have hg := (List.of_mem_zip paired).1
        rw [denotes f List.mem_cons_self] at own
        rw [denotes g (List.mem_cons_of_mem _ hg)] at theirs
        exact first g hg (by rw [Option.some.inj own, Option.some.inj theirs])

end Places

end Validation

namespace Expansion

open Validation (flat keyed keyedBy verboseKey keysApart_keyed)

variable {s : Schema} {inner : Expander} {d : TypeDefinition}

def expandElement (s : Schema) (inner : Expander) (d : TypeDefinition) (v : Json) : Json :=
  match elementType? s d with
  | some t => inner t v
  | none => v

theorem expandLevel_mapOf (kind : d.kind = .mapOf) (members : Dict Json) :
    expandLevel s inner d (.obj members) =
      .obj (members.map fun (key, v) => (key, expandElement s inner d v)) := by
  simp only [expandLevel, kind, expandElement]
  cases elementType? s d with
  | none => simp
  | some t => rfl

theorem expandLevel_flat (kind : d.kind = .mapOf) (values : List Json) :
    expandLevel s inner d (.arr values) = .arr values := by
  simp only [expandLevel, kind]

section Places

variable {expand : Field → Json → Json}

/-- The values of a record, expanded and under the keys of their fields. -/
theorem map_expandMember_keyed (formed : d.WellFormed) (values : List Json) :
    (keyed d.fields d.options.byId values).map (expandMember d expand) =
      keyedBy expand d.fields d.options.byId values := by
  unfold keyed keyedBy
  rw [List.map_filterMap]
  refine List.filterMap_congr fun (f, v) paired => ?_
  have denotes : d.fieldOfKey? (verboseKey f d.options.byId) = some f :=
    formed.denotes_of_prints ⟨(List.of_mem_zip paired).1, rfl⟩
  cases null : v.isNull with
  | true => simp [null]
  | false => cases mode : d.options.byId <;> simp_all [expandMember, verboseKey]

theorem keyed_expandPlaces (isNull : ∀ f v, (expand f v).isNull = v.isNull) (fields : List Field)
    (byId : Bool) (values : List Json) :
    keyed fields byId (expandPlaces expand fields values) =
      keyedBy expand fields byId values := by
  unfold keyed keyedBy
  induction fields generalizing values with
  | nil => simp
  | cons f fields ih =>
    cases values with
    | nil => simp [expandPlaces]
    | cons v values =>
      cases null : v.isNull with
      | true => simp [expandPlaces, null, ih]
      | false => simp [expandPlaces, null, isNull, ih]

theorem length_expandPlaces (fields : List Field) (values : List Json) :
    (expandPlaces expand fields values).length = values.length := by
  induction fields generalizing values with
  | nil => simp [expandPlaces]
  | cons f fields ih => cases values <;> simp [expandPlaces, ih]

/-- Keys printed for fields are kept by expansion. -/
theorem expandObject_keyed (formed : d.WellFormed) (values : List Json) :
    expandObject s inner d (keyed d.fields d.options.byId values) =
      .obj (keyedBy (expandField s inner d) d.fields d.options.byId values) := by
  have single := formed.repeatsField_eq_false_iff.mpr (keysApart_keyed formed values)
  rw [expandObject, single, ← map_expandMember_keyed formed]
  rfl

end Places

end Expansion

namespace Schema

open Expansion Validation

variable {s : Schema} {name : String} {d : TypeDefinition}

/-- How a value that stands inside an instance is checked. -/
def checkInside (s : Schema) : Checker := fun t v => s.check t v 1

theorem checkInside_eq (s : Schema) : s.checkInside = checkLevels s s.limits.maxDepth := by
  funext t v
  rw [checkInside, check, Nat.add_sub_cancel]

theorem validate_of_lookup (found : s.lookup? name = some d) (v : Json) : s.validate name v =
    under name (checkLevel s s.checkInside d
      (expandLevel s (expandLevels s s.limits.maxDepth) d v)) := by
  rw [validate, found, checkInside_eq]
  rfl

theorem isOk_under_iff {segment : String} {outcome : Outcome} :
    (under segment outcome).isOk = true ↔ outcome = .ok () := by
  cases outcome <;> simp [under, Except.mapError, Except.isOk, Except.toBool]

/-- A map from strings has the same outcome as the list of its keys and verbose values in turn,
and is accepted as the list of its keys and values if these fare as their verbose forms do. -/
theorem validate_flat {k : TypeDefinition} (found : s.lookup? name = some d)
    (kind : d.kind = .mapOf) (ktype : d.options.ktype.bind s.lookup? = some k)
    (text : k.baseType = .string) (members : Dict Json) :
    s.validate name (.obj members) = s.validate name (.arr (flat (members.map fun (key, v) =>
        (key, expandElement s (expandLevels s s.limits.maxDepth) d v)))) ∧
      ((∀ v ∈ members.values, ∀ t, elementType? s d = some t →
          (s.checkInside t v = .ok () ↔
            s.checkInside t (expandLevels s s.limits.maxDepth t v) = .ok ())) →
        s.isValid name (.arr (flat members)) = s.isValid name (.obj members)) := by
  have listed : ∀ members : Dict Json, s.validate name (.arr (flat members)) =
      under name (checkMapOf s s.checkInside d (.obj members)) := by
    intro members
    rw [validate_of_lookup found, expandLevel_flat kind]
    simp only [checkLevel, kind, checkMapOf_flat ktype text]
  have verbose : s.validate name (.obj members) =
      s.validate name (.arr (flat (members.map fun (key, v) =>
        (key, expandElement s (expandLevels s s.limits.maxDepth) d v)))) := by
    rw [listed, validate_of_lookup found, expandLevel_mapOf kind]
    simp only [checkLevel, kind]
  refine ⟨verbose, fun alike => ?_⟩
  have accepted : ∀ members : Dict Json, s.isValid name (.arr (flat members)) = true ↔
      checkMapOf s s.checkInside d (.obj members) = .ok () := by
    intro members
    rw [isValid, listed, isOk_under_iff]
  have same : s.isValid name (.obj members) = _ := congrArg Except.isOk verbose
  rw [same, Bool.eq_iff_iff]
  refine (accepted _).trans (Iff.trans ?_ (accepted _).symm)
  simp only [checkMapOf_eq_ok_iff]
  refine exists_congr fun k => and_congr_right fun _ => exists_congr fun t =>
    and_congr_right fun vtype => ?_
  simp only [entries, Except.ok.injEq, exists_eq_left', List.map_map]
  have fare : ∀ v ∈ members.values, (s.checkInside t v = .ok () ↔
      s.checkInside t (expandElement s (expandLevels s s.limits.maxDepth) d v) = .ok ()) := by
    intro v hv
    have element : elementType? s d = some t := vtype
    simpa only [expandElement, element] using alike v hv t element
  constructor
  all_goals
    refine fun admits => admits.of_related (rel_of_forall₂ ?_)
    rw [List.forall₂_map_left_iff, List.forall₂_map_right_iff, List.forall₂_same]
    rintro ⟨key, v⟩ member
  · exact And.imp_right (fare v (List.mem_map_of_mem member)).mp
  · exact And.imp_right (fare v (List.mem_map_of_mem member)).mpr

def state : TypeDefinition where
  name := "State"
  options := {}
  description := ""
  kind := .enumerated [⟨1, "on", ""⟩, ⟨2, "off", ""⟩]

def panel : TypeDefinition where
  name := "Panel"
  options := { ktype := some "String", vtype := some "State" }
  description := ""
  kind := .mapOf

def lamp : TypeDefinition where
  name := "Lamp"
  options := { byId := true }
  description := ""
  kind := .record [.new 1 "label" "String", .new 2 "state" "State"]

def lamps : Schema where
  info := {}
  types := [state, panel, lamp]
  limits := {}
  extensions := []
  fieldTypes := []
  patterns := []

/-- An object with the id of an item is accepted as the list with the item is, and a list with
the item as the object with it. -/
theorem validate_flat_panel :
    lamps.lookup? "Panel" = some panel ∧ panel.kind = .mapOf ∧
      panel.options.ktype.bind lamps.lookup? = some (.plain .string "String" {}) ∧
      lamps.validate "Panel" (.obj [("hall", .int 1)]) =
        lamps.validate "Panel" (.arr [.str "hall", .str "on"]) ∧
      lamps.isValid "Panel" (.arr [.str "hall", .str "on"]) =
        lamps.isValid "Panel" (.obj [("hall", .str "on")]) := by
  have verbose : ∀ v ∈ Dict.values [("hall", Json.str "on")], ∀ t,
      elementType? lamps panel = some t → (lamps.checkInside t v = .ok () ↔
        lamps.checkInside t (expandLevels lamps lamps.limits.maxDepth t v) = .ok ()) := by
    intro v hv t element
    obtain rfl := List.mem_singleton.mp hv
    obtain rfl : state = t := Option.some.inj element
    exact Iff.rfl
  have found : lamps.lookup? "Panel" = some panel := rfl
  have numbered := (validate_flat found rfl rfl rfl [("hall", .int 1)]).1
  have named := (validate_flat found rfl rfl rfl [("hall", .str "on")]).2 verbose
  have listed : flat ([("hall", Json.int 1)].map fun (key, v) => (key, expandElement lamps
      (expandLevels lamps lamps.limits.maxDepth) panel v)) = [.str "hall", .str "on"] := rfl
  rw [listed] at numbered
  exact ⟨found, rfl, rfl, numbered, named⟩

/-- Expansion does not go on into the list. -/
example : lamps.isValid "Panel" (.obj [("hall", .int 1)]) = true ∧
    lamps.isValid "Panel" (.arr [.str "hall", .int 1]) = false := by decide +kernel

/-- A record by names has the same outcome in both forms. One by ids has the same outcome as the
list of its verbose values, and is accepted as the list of its values if these fare as their
verbose forms do. -/
theorem Built.validate_positional (built : s.Built) (found : s.lookup? name = some d)
    {fields : List Field} (kind : d.kind = .record fields) {values : List Json}
    (fits : values.length ≤ fields.length) :
    (d.options.byId = false →
        s.validate name (.arr values) = s.validate name (.obj (keyed fields false values))) ∧
      (d.options.byId = true →
        s.validate name (.obj (keyed fields true values)) = s.validate name (.arr (expandPlaces
            (expandField s (expandLevels s s.limits.maxDepth) d) fields values)) ∧
          ((∀ p ∈ fields.zip values, p.2.isNull = false →
              (checkField s s.checkInside d p.1 p.2 = .ok () ↔ checkField s s.checkInside d p.1
                (expandField s (expandLevels s s.limits.maxDepth) d p.1 p.2) = .ok ())) →
            s.isValid name (.arr values) = s.isValid name (.obj (keyed fields true values)))) := by
  have formed := built.lookup?_wellFormed found
  have settled := settled_expandLevels built s.limits.maxDepth
  have isNull := settled.expandField_isNull d
  have own : d.fields = fields := congrArg Kind.fields kind
  have record : d.baseType = .map ∨ d.baseType = .record :=
    Or.inr (congrArg Kind.baseType kind)
  have named : s.validate name (.obj (keyed fields d.options.byId values)) =
      under name (checkMap s s.checkInside d (.obj (keyedBy
        (expandField s (expandLevels s s.limits.maxDepth) d) fields d.options.byId values))) := by
    rw [validate_of_lookup found, expandLevel_of_members (Or.inr record),
      checkLevel_of_members record, ← own, expandObject_keyed formed]
  refine ⟨fun mode => ?_, fun mode => ?_⟩
  · rw [mode] at named
    rw [named, validate_of_lookup found, checkLevel_of_members record]
    simp only [expandLevel, kind, mode, Nat.not_lt.mpr fits, Bool.false_or, decide_false,
      Bool.false_eq_true, if_false]
    rfl
  · rw [mode] at named
    have listed : ∀ values : List Json, values.length ≤ fields.length →
        s.validate name (.arr values) =
          under name (checkMap s s.checkInside d (.obj (keyed fields true values))) := by
      intro values fits
      rw [validate_of_lookup found, checkLevel_of_members record]
      simp only [expandLevel, kind, mode, Bool.true_or, if_true]
      rw [checkMap_arr kind fits, mode]
    have verbose := listed (expandPlaces (expandField s (expandLevels s s.limits.maxDepth) d)
      fields values) (by rwa [length_expandPlaces])
    rw [keyed_expandPlaces isNull] at verbose
    refine ⟨named.trans verbose.symm, fun alike => ?_⟩
    -- The fields that a key is printed for are that of the value alone.
    have only : ∀ p ∈ fields.zip values, ∀ f, d.Prints (verboseKey p.1 true) f → p.1 = f := by
      intro p hp f printed
      have first : d.Denotes (verboseKey p.1 true) p.1 :=
        formed.denotes_of_prints ⟨own ▸ (List.of_mem_zip hp).1, by rw [mode]⟩
      exact Option.some.inj (first.symm.trans (formed.denotes_of_prints printed))
    rw [isValid, isValid, listed values fits, named, Bool.eq_iff_iff, isOk_under_iff,
      isOk_under_iff, checkMap_obj_eq_ok_iff formed, checkMap_obj_eq_ok_iff formed]
    constructor
    · refine fun admits => admits.of_related (rel_keyedBy fun p hp some => ?_)
      refine ⟨rfl, (isNull p.1 p.2).symm, fun f printed _ => ?_⟩
      rw [← only p hp f printed]
      exact (alike p hp some).mp
    · refine fun admits => admits.of_related (rel_keyedBy fun p hp some => ?_)
      refine ⟨rfl, isNull p.1 p.2, fun f printed _ => ?_⟩
      rw [← only p hp f printed]
      exact (alike p hp some).mpr

theorem lamps_built : lamps.Built := ⟨by decide, .entered, rfl⟩

/-- A lamp with the id of its state is accepted as the list with the state itself is, and a list
with the state as the object with it. -/
theorem validate_positional_lamp :
    lamps.Built ∧ lamps.lookup? "Lamp" = some lamp ∧
      lamps.validate "Lamp" (.obj [("1", .str "hall"), ("2", .int 1)]) =
        lamps.validate "Lamp" (.arr [.str "hall", .str "on"]) ∧
      lamps.isValid "Lamp" (.arr [.str "hall", .str "on"]) =
        lamps.isValid "Lamp" (.obj [("1", .str "hall"), ("2", .str "on")]) := by
  have verbose : ∀ p ∈ lamp.fields.zip [Json.str "hall", .str "on"], p.2.isNull = false →
      (checkField lamps lamps.checkInside lamp p.1 p.2 = .ok () ↔
        checkField lamps lamps.checkInside lamp p.1
          (expandField lamps (expandLevels lamps lamps.limits.maxDepth) lamp p.1 p.2) =
            .ok ()) := by
    intro p hp _
    rcases List.mem_pair.mp hp with rfl | rfl <;> exact Iff.rfl
  have found : lamps.lookup? "Lamp" = some lamp := rfl
  have kind : lamp.kind = .record lamp.fields := rfl
  have fits : ∀ v, [Json.str "hall", v].length ≤ lamp.fields.length := fun _ => Nat.le_refl 2
  have forms := fun v => lamps_built.validate_positional found kind (fits v)
  have listed : expandPlaces (expandField lamps (expandLevels lamps lamps.limits.maxDepth) lamp)
      lamp.fields [.str "hall", .int 1] = [.str "hall", .str "on"] := rfl
  have members : ∀ v : Json, v.isNull = false →
      keyed lamp.fields true [.str "hall", v] = [("1", .str "hall"), ("2", v)] := by
    intro v given
    have label : (Json.str "hall").isNull = false := rfl
    have first : verboseKey (.new 1 "label" "String") true = "1" := rfl
    have second : verboseKey (.new 2 "state" "State") true = "2" := rfl
    simp [keyed, keyedBy, lamp, TypeDefinition.fields, Kind.fields, label, given, first, second]
  have numbered := ((forms (.int 1)).2 rfl).1
  have named := ((forms (.str "on")).2 rfl).2 verbose
  rw [listed, members _ rfl] at numbered
  rw [members _ rfl] at named
  exact ⟨lamps_built, found, numbered, named⟩

/-- Expansion does not go on into the list. -/
example : lamps.isValid "Lamp" (.obj [("1", .str "hall"), ("2", .int 1)]) = true ∧
    lamps.isValid "Lamp" (.arr [.str "hall", .int 1]) = false := by decide +kernel

end Schema

end Jadn
