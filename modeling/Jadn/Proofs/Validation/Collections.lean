import Jadn.Proofs.Validation.Acceptance
import Jadn.Proofs.Validation.Locality
import Mathlib.Logic.Relation

/-!
The walk that validation makes through an instance, and the collections it meets.

A node is a definition with the value that is checked against it. One step leads from a node to
those that its check goes on to, and to no others: the outcome at a node depends on nothing but
those at the next ones. What is accepted stays accepted along steps, so a bound that every check
enforces holds on the whole walk.
-/

set_option autoImplicit false

namespace Jadn.Validation

/-- A field of a definition and its value in an instance: an alternative of a choice, a place of
an array, or a member of a map or a record. -/
inductive Fills (d : TypeDefinition) : Json → Field → Json → Prop where
  | alternative {key : String} {f : Field} {v : Json} (kind : d.baseType = .choice)
      (denoted : d.fieldOfKey? key = some f) : Fills d (.obj [(key, v)]) f v
  | place {w : Json} {values : List Json} {f : Field} {v : Json} (kind : d.baseType = .array)
      (read : placesOf d w = .ok (.arr values)) (placed : (f, v) ∈ d.fields.zip values)
      (given : v.isNull = false) : Fills d w f v
  | member {w : Json} {ms : Dict Json} {f : Field} {v : Json}
      (kind : d.baseType = .map ∨ d.baseType = .record) (read : members d w = .ok ms)
      (listed : f ∈ d.fields)
      (given : present? (ms.lookup (verboseKey f d.options.byId)) = some v) : Fills d w f v

/-- From a node to those that its check goes on to. -/
inductive Step (s : Schema) : TypeDefinition × Json → TypeDefinition × Json → Prop where
  | element {d t : TypeDefinition} {values : List Json} {v : Json} (kind : d.baseType = .arrayOf)
      (type : d.options.vtype.bind s.lookup? = some t) (member : v ∈ values) :
      Step s (d, .arr values) (t, v)
  | key {d k : TypeDefinition} {w : Json} {es : List (Json × Json)} {e : Json × Json}
      (kind : d.baseType = .mapOf) (type : d.options.ktype.bind s.lookup? = some k)
      (read : entries d k w = .ok es) (member : e ∈ es) : Step s (d, w) (k, e.1)
  | entry {d k t : TypeDefinition} {w : Json} {es : List (Json × Json)} {e : Json × Json}
      (kind : d.baseType = .mapOf) (keys : d.options.ktype.bind s.lookup? = some k)
      (type : d.options.vtype.bind s.lookup? = some t) (read : entries d k w = .ok es)
      (member : e ∈ es) : Step s (d, w) (t, e.2)
  | single {d t : TypeDefinition} {w : Json} {f : Field} {v : Json} (filled : Fills d w f v)
      (type : s.fieldType? d.name f = some t) (once : f.isRepeated = false) :
      Step s (d, w) (t, v)
  | occurrence {d t : TypeDefinition} {w : Json} {f : Field} {values : List Json} {v : Json}
      (filled : Fills d w f (.arr values)) (type : s.fieldType? d.name f = some t)
      (repeated : f.isRepeated = true) (member : v ∈ values) : Step s (d, w) (t, v)

section Walk

variable {s : Schema}

theorem denotes_of_step {node node' : TypeDefinition × Json} (step : Step s node node') :
    s.Denotes node'.1 := by
  cases step with
  | element _ type _ => exact Schema.denotes_of_bind type
  | key _ type _ _ => exact Schema.denotes_of_bind type
  | entry _ _ type _ _ => exact Schema.denotes_of_bind type
  | single _ type _ => exact .inr ⟨_, _, type⟩
  | occurrence _ type _ _ => exact .inr ⟨_, _, type⟩

theorem denotes_of_walk {node node' : TypeDefinition × Json} (start : s.Denotes node.1)
    (walked : Relation.ReflTransGen (Step s) node node') : s.Denotes node'.1 := by
  cases walked with
  | refl => exact start
  | tail _ step => exact denotes_of_step step

end Walk

/-- How many parts the collection at a node has: elements, entries, or members, of which a record
that is given by its values in order has those that are not null. -/
inductive Collects (s : Schema) : TypeDefinition × Json → Nat → Prop where
  | elements {d : TypeDefinition} {values : List Json} (kind : d.baseType = .arrayOf) :
      Collects s (d, .arr values) values.length
  | entries {d k : TypeDefinition} {w : Json} {es : List (Json × Json)}
      (kind : d.baseType = .mapOf) (keys : d.options.ktype.bind s.lookup? = some k)
      (read : entries d k w = .ok es) : Collects s (d, w) es.length
  | members {d : TypeDefinition} {w : Json} {ms : Dict Json}
      (kind : d.baseType = .map ∨ d.baseType = .record) (read : members d w = .ok ms) :
      Collects s (d, w) ms.length

section Levels

variable {s : Schema} {inner : Checker} {d : TypeDefinition}

theorem kind_of_choice (kind : d.baseType = .choice) : d.kind = .choice d.fields := by
  unfold TypeDefinition.fields
  cases own : d.kind <;> simp_all [TypeDefinition.baseType, Kind.baseType, Kind.fields]

theorem kind_of_array (kind : d.baseType = .array) : d.kind = .array d.fields := by
  unfold TypeDefinition.fields
  cases own : d.kind <;> simp_all [TypeDefinition.baseType, Kind.baseType, Kind.fields]

theorem checkLevel_of_choice (kind : d.baseType = .choice) (v : Json) :
    checkLevel s inner d v = checkChoice s inner d v := by
  rw [checkLevel, kind_of_choice kind]

theorem checkLevel_of_array (kind : d.baseType = .array) (v : Json) :
    checkLevel s inner d v = checkArray s inner d d.fields v := by
  rw [checkLevel, kind_of_array kind]

theorem checkLevel_of_arrayOf (kind : d.baseType = .arrayOf) (v : Json) :
    checkLevel s inner d v = checkArrayOf s inner d v := by
  unfold checkLevel
  cases own : d.kind <;> simp_all [TypeDefinition.baseType, Kind.baseType]

theorem checkLevel_of_mapOf (kind : d.baseType = .mapOf) (v : Json) :
    checkLevel s inner d v = checkMapOf s inner d v := by
  unfold checkLevel
  cases own : d.kind <;> simp_all [TypeDefinition.baseType, Kind.baseType]

theorem admitsElements_of_accepted {t : TypeDefinition} {values : List Json}
    (kind : d.baseType = .arrayOf) (accepted : checkLevel s inner d (.arr values) = .ok ())
    (type : d.options.vtype.bind s.lookup? = some t) : AdmitsElements s (inner t) d values := by
  rw [checkLevel_of_arrayOf kind] at accepted
  obtain ⟨u, found, _, same, admits⟩ := checkArrayOf_eq_ok_iff.mp accepted
  obtain rfl := Option.some.inj (type.symm.trans found)
  obtain rfl := Json.arr.inj same
  exact admits

theorem admitsEntries_of_accepted {k : TypeDefinition} {w : Json} {es : List (Json × Json)}
    (kind : d.baseType = .mapOf) (accepted : checkLevel s inner d w = .ok ())
    (keys : d.options.ktype.bind s.lookup? = some k) (read : entries d k w = .ok es) :
    ∃ t, d.options.vtype.bind s.lookup? = some t ∧ AdmitsEntries s (inner k) (inner t) d es := by
  rw [checkLevel_of_mapOf kind] at accepted
  obtain ⟨u, found, t, type, fs, same, admits⟩ := checkMapOf_eq_ok_iff.mp accepted
  obtain rfl := Option.some.inj (keys.symm.trans found)
  obtain rfl := Except.ok.inj (read.symm.trans same)
  exact ⟨t, type, admits⟩

theorem members_of_accepted {w : Json} {ms : Dict Json}
    (kind : d.baseType = .map ∨ d.baseType = .record)
    (accepted : checkLevel s inner d w = .ok ()) (read : members d w = .ok ms) :
    ms.length ≤ s.limits.maxCollectionSize ∧
      ∀ f ∈ d.fields, ∀ v, present? (ms.lookup (verboseKey f d.options.byId)) = some v →
        checkField s inner d f v = .ok () := by
  rw [checkLevel_of_members kind] at accepted
  simp only [checkMap, Except.bind_eq_ok_iff] at accepted
  obtain ⟨ns, same, ⟨⟩, limited, ⟨⟩, -, ⟨⟩, -, ⟨⟩, checked, -⟩ := accepted
  obtain rfl := Except.ok.inj (read.symm.trans same)
  refine ⟨checkCollection_eq_ok_iff.mp limited, fun f hf v given => ?_⟩
  have held := Except.forM_eq_ok_iff.mp checked f hf
  rw [given] at held
  exact under_eq_ok_iff.mp held

theorem checkField_of_fills {w : Json} (accepted : checkLevel s inner d w = .ok ()) {f : Field}
    {v : Json} (filled : Fills d w f v) : checkField s inner d f v = .ok () := by
  cases filled with
  | alternative kind denoted =>
    rw [checkLevel_of_choice kind] at accepted
    simp only [checkChoice, denoted] at accepted
    exact under_eq_ok_iff.mp accepted
  | place kind read placed given =>
    rw [checkLevel_of_array kind] at accepted
    obtain ⟨values, same, admits⟩ := checkArray_eq_ok_iff.mp accepted
    obtain rfl := Json.arr.inj (Except.ok.inj (read.symm.trans same))
    exact admits.checked _ placed given
  | member kind read listed given => exact (members_of_accepted kind accepted read).2 f listed v given

theorem fieldType_of_fills {w : Json} (accepted : checkLevel s inner d w = .ok ()) {f : Field}
    {v : Json} (filled : Fills d w f v) {t : TypeDefinition}
    (type : s.fieldType? d.name f = some t) :
    f.isRepeated = false ∧ inner t v = .ok () ∨
      f.isRepeated = true ∧ ∃ values, v = .arr values ∧ Repeats s (inner t) f values := by
  obtain ⟨u, found, cases⟩ := checkField_eq_ok_iff.mp (checkField_of_fills accepted filled)
  obtain rfl := Option.some.inj (type.symm.trans found)
  exact cases

theorem repeats_of_fills {w : Json} (accepted : checkLevel s inner d w = .ok ()) {f : Field}
    {values : List Json} (filled : Fills d w f (.arr values)) {t : TypeDefinition}
    (type : s.fieldType? d.name f = some t) (repeated : f.isRepeated = true) :
    Repeats s (inner t) f values := by
  rcases fieldType_of_fills accepted filled type with ⟨once, -⟩ | ⟨-, values, same, repeats⟩
  · rw [repeated] at once
    cases once
  · obtain rfl := Json.arr.inj same
    exact repeats

/-- From an accepted node, steps lead to nodes that are accepted one level further in. -/
theorem accepted_of_step {w : Json} (accepted : checkLevel s inner d w = .ok ())
    {t : TypeDefinition} {v : Json} (step : Step s (d, w) (t, v)) : inner t v = .ok () := by
  cases step with
  | element kind type member => exact (admitsElements_of_accepted kind accepted type).checked v member
  | key kind type read member =>
    obtain ⟨t, -, admits⟩ := admitsEntries_of_accepted kind accepted type read
    exact (admits.checked _ member).1
  | entry kind keys type read member =>
    obtain ⟨u, found, admits⟩ := admitsEntries_of_accepted kind accepted keys read
    obtain rfl := Option.some.inj (type.symm.trans found)
    exact (admits.checked _ member).2
  | single filled type once =>
    rcases fieldType_of_fills accepted filled type with ⟨-, checked⟩ | ⟨repeated, -⟩
    · exact checked
    · rw [once] at repeated
      cases repeated
  | occurrence filled type repeated member =>
    exact (repeats_of_fills accepted filled type repeated).checked v member

theorem collects_le {w : Json} (accepted : checkLevel s inner d w = .ok ()) {count : Nat}
    (collected : Collects s (d, w) count) : count ≤ s.limits.maxCollectionSize := by
  cases collected with
  | @elements _ values kind =>
    have checked := accepted
    rw [checkLevel_of_arrayOf kind] at checked
    obtain ⟨t, type, -⟩ := checkArrayOf_eq_ok_iff.mp checked
    exact (admitsElements_of_accepted kind accepted type).limited
  | entries kind keys read =>
    obtain ⟨t, -, admits⟩ := admitsEntries_of_accepted kind accepted keys read
    exact admits.limited
  | members kind read => exact (members_of_accepted kind accepted read).1

theorem length_le_of_fills {w : Json} (accepted : checkLevel s inner d w = .ok ()) {f : Field}
    {values : List Json} (filled : Fills d w f (.arr values)) (repeated : f.isRepeated = true) :
    values.length ≤ f.maxc?.getD s.config.elementLimit := by
  obtain ⟨t, type, -⟩ := checkField_eq_ok_iff.mp (checkField_of_fills accepted filled)
  exact (repeats_of_fills accepted filled type repeated).atMost

end Levels

section Further

variable {s : Schema} {inner inner' : Checker} {d : TypeDefinition} {w : Json}
  (same : ∀ t v, Step s (d, w) (t, v) → inner t v = inner' t v)
include same

omit same in
theorem forM_elements_congr {t : TypeDefinition} {values : List Json}
    (same : ∀ v ∈ values, inner t v = inner' t v) :
    (values.zipIdx.forM fun p => under (toString p.2) (inner t p.1)) =
      values.zipIdx.forM fun p => under (toString p.2) (inner' t p.1) :=
  forM_congr _ fun p member => by rw [same p.1 (List.fst_mem_of_mem_zipIdx member)]

theorem checkField_congr {f : Field} {v : Json} (filled : Fills d w f v) :
    checkField s inner d f v = checkField s inner' d f v := by
  unfold checkField
  cases type : s.fieldType? d.name f with
  | none => rfl
  | some t =>
    cases often : f.isRepeated with
    | false => exact same t v (.single filled type often)
    | true =>
      cases v with
      | arr values =>
        have each := forM_elements_congr fun v listed =>
          same t v (.occurrence filled type often listed)
        simp only [Json.arr?, Bool.not_true, Bool.false_eq_true, if_false, each]
      | _ => rfl

theorem checkChoice_congr (kind : d.baseType = .choice) :
    checkChoice s inner d w = checkChoice s inner' d w := by
  unfold checkChoice
  split
  · rfl
  · next key member =>
    cases denoted : d.fieldOfKey? key with
    | none => rfl
    | some f => simp only [checkField_congr same (.alternative kind denoted)]
  · rfl
  · rfl

theorem checkArray_congr (kind : d.baseType = .array) :
    checkArray s inner d d.fields w = checkArray s inner' d d.fields w := by
  rw [checkArray, checkArray]
  cases read : placesOf d w with
  | error e => rfl
  | ok places =>
    cases places with
    | arr values =>
      have each := forM_congr (d.fields.zip values)
        (f := fun p => if p.2.isNull then .ok () else
          under p.1.name (checkField s inner d p.1 p.2))
        (g := fun p => if p.2.isNull then .ok () else
          under p.1.name (checkField s inner' d p.1 p.2)) fun p placed => by
            cases given : p.2.isNull with
            | true => rfl
            | false => rw [checkField_congr same (.place kind read placed given)]
      simp only [bind, Except.bind, checkPlaces, Json.arr?, each]
    | _ => rfl

theorem checkArrayOf_congr (kind : d.baseType = .arrayOf) :
    checkArrayOf s inner d w = checkArrayOf s inner' d w := by
  unfold checkArrayOf
  cases type : partType s d "vtype" d.options.vtype with
  | error e => rfl
  | ok t =>
    cases w with
    | arr values =>
      have each := forM_elements_congr fun v listed =>
        same t v (.element kind (partType_eq_ok_iff.mp type) listed)
      simp only [bind, Except.bind, Json.arr?, each]
    | _ => rfl

theorem checkMap_congr (kind : d.baseType = .map ∨ d.baseType = .record) :
    checkMap s inner d w = checkMap s inner' d w := by
  unfold checkMap
  cases read : members d w with
  | error e => rfl
  | ok ms =>
    rw [show (Except.ok ms : Except ValidationError (Dict Json)) = pure ms from rfl, pure_bind,
      pure_bind]
    refine bind_congr fun _ => bind_congr fun _ => bind_congr fun _ => ?_
    refine congrArg₂ bind (forM_congr _ fun f listed => ?_) rfl
    cases given : present? (ms.lookup (verboseKey f d.options.byId)) with
    | none => simp only [given]
    | some v => simp only [given, checkField_congr same (.member kind read listed given)]

theorem checkMapOf_congr (kind : d.baseType = .mapOf) :
    checkMapOf s inner d w = checkMapOf s inner' d w := by
  unfold checkMapOf
  cases keys : partType s d "ktype" d.options.ktype with
  | error e => rfl
  | ok k =>
    cases type : partType s d "vtype" d.options.vtype with
    | error e => rfl
    | ok t =>
      cases read : entries d k w with
      | error e => simp only [bind, Except.bind, read]
      | ok es =>
        have each := forM_congr es (f := fun e => do
            under (keyText e.1) (inner k e.1)
            under (keyText e.1) (inner t e.2))
          (g := fun e => do
            under (keyText e.1) (inner' k e.1)
            under (keyText e.1) (inner' t e.2)) fun e member => by
              have keyed := partType_eq_ok_iff.mp keys
              rw [same k e.1 (.key kind keyed read member),
                same t e.2 (.entry kind keyed (partType_eq_ok_iff.mp type) read member)]
        simp only [bind, Except.bind, read] at each ⊢
        simp only [each]

/-- A check asks further at no other nodes than those that steps lead to. -/
theorem checkLevel_congr : checkLevel s inner d w = checkLevel s inner' d w := by
  cases kind : d.baseType with
  | choice => rw [checkLevel_of_choice kind, checkLevel_of_choice kind, checkChoice_congr same kind]
  | array => rw [checkLevel_of_array kind, checkLevel_of_array kind, checkArray_congr same kind]
  | arrayOf =>
    rw [checkLevel_of_arrayOf kind, checkLevel_of_arrayOf kind, checkArrayOf_congr same kind]
  | mapOf => rw [checkLevel_of_mapOf kind, checkLevel_of_mapOf kind, checkMapOf_congr same kind]
  | map =>
    rw [checkLevel_of_members (.inl kind), checkLevel_of_members (.inl kind),
      checkMap_congr same (.inl kind)]
  | record =>
    rw [checkLevel_of_members (.inr kind), checkLevel_of_members (.inr kind),
      checkMap_congr same (.inr kind)]
  | _ =>
    unfold checkLevel
    cases own : d.kind <;> simp_all [TypeDefinition.baseType, Kind.baseType]

end Further

/-- Whether a node passes the check, at whatever depth it is met. -/
def Accepted (s : Schema) (node : TypeDefinition × Json) : Prop :=
  ∃ levels, checkLevels s (levels + 1) node.1 node.2 = .ok ()

/-- A walk meets only accepted nodes once it has started at one. -/
theorem Accepted.walk {s : Schema} {node node' : TypeDefinition × Json} (start : Accepted s node)
    (walked : Relation.ReflTransGen (Step s) node node') : Accepted s node' := by
  induction walked with
  | refl => exact start
  | tail _ step ih =>
    obtain ⟨levels, accepted⟩ := ih
    have next := accepted_of_step accepted step
    cases levels with
    | zero => cases next
    | succ levels => exact ⟨levels, next⟩

end Jadn.Validation

namespace Jadn.Schema

/-- Wherever the walk through an accepted instance leads, the collection there is within the limit
of the schema, whatever its type allows. The array of a field that may repeat is only within the
bound of the field. -/
theorem collections_of_validate {s : Schema} {name : String} {v : Json}
    (accepted : s.validate name v = .ok ()) :
    ∃ d, s.lookup? name = some d ∧
      ∀ e w, Relation.ReflTransGen (Validation.Step s) (d, d.expand s v) (e, w) →
        (∀ count, Validation.Collects s (e, w) count → count ≤ s.limits.maxCollectionSize) ∧
        ∀ f values, Validation.Fills e w f (.arr values) → f.isRepeated = true →
          values.length ≤ f.maxc?.getD s.config.elementLimit := by
  unfold validate at accepted
  cases found : s.lookup? name with
  | none =>
    rw [found] at accepted
    cases accepted
  | some d =>
    rw [found] at accepted
    have start : Validation.Accepted s (d, d.expand s v) :=
      ⟨s.limits.maxDepth, Validation.under_eq_ok_iff.mp accepted⟩
    refine ⟨d, rfl, fun e w walked => ?_⟩
    obtain ⟨levels, here⟩ := start.walk walked
    exact ⟨fun count collected => Validation.collects_le here collected,
      fun f values filled repeated => Validation.length_le_of_fills here filled repeated⟩

def labels : TypeDefinition where
  name := "Labels"
  options := { vtype := some "String" }
  description := ""
  kind := .arrayOf

def basket : TypeDefinition where
  name := "Basket"
  options := {}
  description := ""
  kind := .record [
    { id := 1, name := "prices", typeRef := "Integer", options := { maxc := some 0 },
      description := "" },
    .new 2 "labels" "Labels"]

def baskets : Schema where
  info := {}
  types := [basket, labels]
  limits := { maxCollectionSize := 2 }
  extensions := []
  fieldTypes := []
  patterns := []

/-- Two labels are as many as may be, and three prices are accepted. -/
theorem collections_of_basket :
    baskets.validate "Basket" (.obj [("prices", .arr [.int 1, .int 2, .int 3]),
        ("labels", .arr [.str "new", .str "red"])]) = .ok () ∧
      (∃ count, Validation.Collects baskets (labels, .arr [.str "new", .str "red"]) count ∧
        count ≤ baskets.limits.maxCollectionSize) ∧
      ∃ f values, f ∈ basket.fields ∧ baskets.limits.maxCollectionSize < List.length values ∧
        (values : List Json).length ≤ f.maxc?.getD baskets.config.elementLimit := by
  have accepted : baskets.validate "Basket" (.obj [("prices", .arr [.int 1, .int 2, .int 3]),
      ("labels", .arr [.str "new", .str "red"])]) = .ok () := rfl
  obtain ⟨d, found, bounded⟩ := collections_of_validate accepted
  obtain rfl : basket = d := Option.some.inj (show some basket = some d from found)
  have price : Validation.Fills basket
      (.obj [("prices", .arr [.int 1, .int 2, .int 3]), ("labels", .arr [.str "new", .str "red"])])
      basket.fields.head! (.arr [.int 1, .int 2, .int 3]) :=
    .member (.inr rfl) rfl List.mem_cons_self rfl
  have label : Validation.Fills basket
      (.obj [("prices", .arr [.int 1, .int 2, .int 3]), ("labels", .arr [.str "new", .str "red"])])
      (.new 2 "labels" "Labels") (.arr [.str "new", .str "red"]) :=
    .member (.inr rfl) rfl (List.mem_cons_of_mem _ List.mem_cons_self) rfl
  have inside := (bounded labels (.arr [.str "new", .str "red"])
    (.single (.single label rfl rfl))).1 2 (.elements rfl)
  have many := (bounded basket _ .refl).2 _ _ price rfl
  exact ⟨accepted, ⟨2, .elements rfl, inside⟩, _, _, List.mem_cons_self, by decide, many⟩

end Jadn.Schema
