import Jadn.Proofs.Expansion.Forms
import Jadn.Proofs.Expansion.Spelling
import Jadn.Proofs.Validation.Faults

/-!
Where the paths of errors lead.

A check names a part of its value by putting a segment in front of the path of an error at that
part. So a path can be followed from the verbose form of the instance, one segment at a time, to
where a check fails. The keys of an object are its own, with one exception: where the keys of a map
are numbers, a segment is the text of the number that a key stands for.
-/

set_option autoImplicit false

namespace Jadn.Validation

open Except (FailsWith)

/-- Where a path leads: to a value that is checked against a definition, or to the value of a field
of a definition. -/
inductive Spot where
  | node (d : TypeDefinition) (v : Json)
  | field (owner : TypeDefinition) (f : Field) (v : Json)

def Spot.check (s : Schema) (inner : Checker) : Spot → Outcome
  | node d v => inner d v
  | field owner f v => checkField s inner owner f v

def entrySpots (k t : TypeDefinition) (e : Json × Json) : List Spot := [.node k e.1, .node t e.2]

inductive Selects (s : Schema) : Spot → String → Spot → Prop where
  /-- An object has a member under its own key, which names a field. -/
  | member {d : TypeDefinition} {ms : Dict Json} {key : String} {f : Field} {v : Json}
      (kind : d.baseType = .choice ∨ d.baseType = .map ∨ d.baseType = .record)
      (own : (key, v) ∈ ms) (named : d.Names key f) :
      Selects s (.node d (.obj ms)) key (.field d f v)
  /-- An array has a value at the place of a field, which goes by its name. -/
  | place {d : TypeDefinition} {values : List Json} {i : Nat} {f : Field} {v : Json}
      (kind : d.baseType = .array) (field : d.fields[i]? = some f) (value : values[i]? = some v) :
      Selects s (.node d (.arr values)) f.name (.field d f v)
  /-- The text of a network is split into the values of fields. -/
  | half {d : TypeDefinition} {format text : String} {values : List Json} {i : Nat} {f : Field}
      {v : Json} (kind : d.baseType = .array) (network : d.options.format = some format)
      (split : Format.networkParts format (.str text) = .ok (.arr values))
      (field : d.fields[i]? = some f) (value : values[i]? = some v) :
      Selects s (.node d (.str text)) f.name (.field d f v)
  /-- A record that is written as an array has a value at the place of a field, which goes by its
  name or by its id. -/
  | position {d : TypeDefinition} {fields : List Field} {values : List Json} {i : Nat} {f g : Field}
      {v : Json} (kind : d.kind = .record fields) (field : fields[i]? = some f)
      (value : values[i]? = some v)
      (same : verboseKey g d.options.byId = verboseKey f d.options.byId) :
      Selects s (.node d (.arr values)) (verboseKey f d.options.byId) (.field d g v)
  | element {d t : TypeDefinition} {values : List Json} {i : Nat} {v : Json}
      (kind : d.baseType = .arrayOf) (type : d.options.vtype.bind s.lookup? = some t)
      (value : values[i]? = some v) : Selects s (.node d (.arr values)) (toString i) (.node t v)
  /-- A field that may repeat has an array of values. -/
  | occurrence {owner t : TypeDefinition} {f : Field} {values : List Json} {i : Nat} {v : Json}
      (type : s.fieldType? owner.name f = some t) (repeated : f.isRepeated = true)
      (value : values[i]? = some v) :
      Selects s (.field owner f (.arr values)) (toString i) (.node t v)
  /-- A list of keys and values in turn has an entry under the text of its key. -/
  | pair {d k t : TypeDefinition} {values : List Json} {es : List (Json × Json)} {e : Json × Json}
      {b : Spot} (kind : d.baseType = .mapOf) (keys : d.options.ktype.bind s.lookup? = some k)
      (type : d.options.vtype.bind s.lookup? = some t) (pairs : pairs? values = some es)
      (listed : e ∈ es) (part : b ∈ entrySpots k t e) :
      Selects s (.node d (.arr values)) (keyText e.1) b
  /-- A map that is written as an object has an entry under its own key. -/
  | entry {d k t : TypeDefinition} {ms : Dict Json} {key : String} {v : Json} {b : Spot}
      (kind : d.baseType = .mapOf) (keys : d.options.ktype.bind s.lookup? = some k)
      (type : d.options.vtype.bind s.lookup? = some t) (own : (key, v) ∈ ms)
      (part : b ∈ entrySpots k t (valueOfKey k key, v)) :
      Selects s (.node d (.obj ms)) key b

/-- The text of the number that a key stands for, where it is another text than the key. -/
inductive Respells (k : TypeDefinition) (key : String) : String → Prop where
  | integer {n : Int64} (kind : k.baseType = .integer) (read : Numeral.int64? key = some n)
      (other : (Json.ofInt64 n).text ≠ key) : Respells k key (Json.ofInt64 n).text
  | number {x : Binary64} (kind : k.baseType = .number) (read : Binary64.real? key = some x)
      (other : (Json.real x).text ≠ key) : Respells k key (Json.real x).text

/-- A segment restates the key of an object whose keys are numbers, so that it need not be a key of
that object. -/
inductive Restates (s : Schema) : Spot → String → Spot → Prop where
  | entry {d k t : TypeDefinition} {ms : Dict Json} {key segment : String} {v : Json} {b : Spot}
      (kind : d.baseType = .mapOf) (keys : d.options.ktype.bind s.lookup? = some k)
      (type : d.options.vtype.bind s.lookup? = some t) (own : (key, v) ∈ ms)
      (respelled : Respells k key segment) (part : b ∈ entrySpots k t (valueOfKey k key, v)) :
      Restates s (.node d (.obj ms)) segment b

/-- A path leads from one spot to another. -/
inductive Follows (s : Schema) : Spot → List String → Spot → Prop where
  | here (a : Spot) : Follows s a [] a
  /-- The value of a field that does not repeat is a value of its type. -/
  | whole {owner t : TypeDefinition} {f : Field} {v : Json} {path : List String} {b : Spot}
      (type : s.fieldType? owner.name f = some t) (once : f.isRepeated = false)
      (rest : Follows s (.node t v) path b) : Follows s (.field owner f v) path b
  | select {a b c : Spot} {segment : String} {path : List String} (part : Selects s a segment b)
      (rest : Follows s b path c) : Follows s a (segment :: path) c
  | restate {a b c : Spot} {segment : String} {path : List String} (part : Restates s a segment b)
      (rest : Follows s b path c) : Follows s a (segment :: path) c

section Levels

variable {s : Schema} {inner : Checker} {d : TypeDefinition}

/-- An error at a spot is as described, or it is one at a part of it. -/
def Arises (P : ValidationError → Prop) (s : Schema) (inner : Checker) (a : Spot)
    (e : ValidationError) : Prop :=
  P e ∨ ∃ segment b own, (Selects s a segment b ∨ Restates s a segment b) ∧
    b.check s inner = .error own ∧ own.under segment = e

theorem arises_of_plain {α : Type} {x : Except ValidationError α} (h : FailsWith Plain x)
    (a : Spot) : FailsWith (Arises Plain s inner a) x :=
  h.mono fun _ => .inl

theorem arises_error {α : Type} {a : Spot} {e : ValidationError} (h : Plain e) :
    FailsWith (Arises Plain s inner a) (.error e : Except ValidationError α) :=
  .error (.inl h)

theorem arises_under {P : ValidationError → Prop} {a b : Spot} {segment : String}
    (part : Selects s a segment b ∨ Restates s a segment b) :
    FailsWith (Arises P s inner a) (under segment (b.check s inner)) :=
  .mapError fun own here => .inr ⟨segment, b, own, part, here, rfl⟩

theorem arises_partType {a : Spot} {role : String} {reference : Option String} :
    FailsWith (Arises Plain s inner a) (partType s d role reference) := by
  unfold partType
  split
  · exact arises_error ⟨rfl, rfl⟩
  · split
    · exact .ok _
    · exact arises_error ⟨rfl, rfl⟩

theorem arises_checkChoice (kind : d.baseType = .choice) (v : Json) :
    FailsWith (Arises Plain s inner (.node d v)) (checkChoice s inner d v) := by
  unfold checkChoice
  dsimp only
  split
  · exact .ite (.ok _) (arises_error ⟨rfl, rfl⟩)
  · next key member =>
    cases denoted : d.fieldOfKey? key with
    | none => exact arises_error ⟨rfl, rfl⟩
    | some f =>
      have named := TypeDefinition.names_of_fieldOfKey? denoted
      exact arises_under (b := .field d f member)
        (.inl (.member (.inl kind) List.mem_cons_self named))
  · exact arises_error ⟨rfl, rfl⟩
  · exact arises_error ⟨rfl, rfl⟩

theorem selects_of_placesOf (kind : d.baseType = .array) {w : Json} {values : List Json}
    (read : placesOf d w = .ok (.arr values)) {f : Field} {v : Json}
    (placed : (f, v) ∈ d.fields.zip values) :
    Selects s (.node d w) f.name (.field d f v) := by
  obtain ⟨i, here⟩ := List.mem_iff_getElem?.mp placed
  obtain ⟨field, value⟩ := List.getElem?_zip_eq_some.mp here
  unfold placesOf at read
  split at read
  · next format network =>
    have split := Except.mapError_eq_ok_iff.mp read
    cases w with
    | str text => exact .half kind network split field value
    | arr ws =>
      unfold Format.networkParts at split
      cases known : Format.longestNetwork? format with
      | none =>
        rw [known] at split
        cases split
      | some longest =>
        rw [known] at split
        cases split
        exact .place kind field value
    | _ =>
      unfold Format.networkParts at split
      cases known : Format.longestNetwork? format <;> rw [known] at split <;> cases split
  · cases read
    exact .place kind field value

theorem arises_checkPlaces (kind : d.baseType = .array) {w v : Json}
    (read : placesOf d w = .ok v) :
    FailsWith (Arises Plain s inner (.node d w)) (checkPlaces s inner d d.fields v) := by
  unfold checkPlaces
  cases v with
  | arr values =>
    simp only [Json.arr?]
    refine .ite (arises_error ⟨rfl, rfl⟩) (.bind (.forM fun p _ => ?_) fun _ _ =>
      .bind (.forM fun p placed => ?_) fun _ _ => arises_of_plain (plain_checkBounds _ _ _) _)
    · exact .ite (arises_error ⟨rfl, rfl⟩) (.ok _)
    · exact .ite (.ok _)
        (arises_under (b := .field d p.1 p.2) (.inl (selects_of_placesOf kind read placed)))
  | _ => exact arises_error ⟨rfl, rfl⟩

theorem arises_checkArray (kind : d.baseType = .array) (v : Json) :
    FailsWith (Arises Plain s inner (.node d v)) (checkArray s inner d d.fields v) := by
  rw [checkArray]
  refine .bind ?_ fun _ read => arises_checkPlaces kind read
  unfold placesOf
  split
  · exact arises_of_plain (plain_ofType (plain_networkParts _ _) d) _
  · exact .ok _

theorem arises_checkArrayOf (kind : d.baseType = .arrayOf) (v : Json) :
    FailsWith (Arises Plain s inner (.node d v)) (checkArrayOf s inner d v) := by
  unfold checkArrayOf
  refine arises_partType.bind fun t type => ?_
  cases v with
  | arr values =>
    simp only [Json.arr?]
    have size : FailsWith (Arises Plain s inner (.node d (.arr values)))
        (checkSize s d values.length) :=
      arises_of_plain (plain_checkBounds _ _ _) _
    refine (arises_of_plain (plain_checkCollection _) _).bind fun _ _ =>
      .bind (.forM fun p member => ?_) fun _ _ => .ite ?_ size
    · have value := List.mem_zipIdx_iff_getElem?.mp member
      exact arises_under (b := .node t p.1)
        (.inl (.element kind (partType_eq_ok_iff.mp type) value))
    · split
      · exact (arises_error (e := violationBy d .duplicateElement _) ⟨rfl, rfl⟩).bind
          fun _ _ => size
      · exact size
  | _ => exact arises_error ⟨rfl, rfl⟩

theorem plain_checkKeys (given : List Int64) (keys : List String) :
    FailsWith Plain (checkKeys d given keys) := by
  induction keys generalizing given with
  | nil => exact .ok _
  | cons key keys ih =>
    unfold checkKeys
    split
    · exact .ite (.error ⟨rfl, rfl⟩) (ih _)
    · exact .ite (ih _) (.error ⟨rfl, rfl⟩)

theorem selects_of_members (kind : d.baseType = .map ∨ d.baseType = .record) {w : Json}
    {ms : Dict Json} (read : members d w = .ok ms) {f : Field} (listed : f ∈ d.fields) {v : Json}
    (found : present? (ms.lookup (verboseKey f d.options.byId)) = some v) :
    Selects s (.node d w) (verboseKey f d.options.byId) (.field d f v) := by
  have own := mem_of_lookup (Option.eq_some_of_filter_eq_some found)
  unfold members at read
  split at read
  · cases read
    refine .member (.inr kind) own ⟨listed, ?_⟩
    cases mode : d.options.byId with
    | true => exact .inl (Numeral.int64?_toString f.id)
    | false => exact .inr ⟨rfl, rfl⟩
  · next fields values record =>
    split at read
    · cases read
    · cases read
      obtain ⟨-, g, placed, same⟩ := mem_keyed_iff.mp own
      obtain ⟨i, here⟩ := List.mem_iff_getElem?.mp placed
      obtain ⟨field, value⟩ := List.getElem?_zip_eq_some.mp here
      rw [← same]
      exact .position record field value same.symm
  · cases read

theorem arises_checkMap (kind : d.baseType = .map ∨ d.baseType = .record) (w : Json) :
    FailsWith (Arises Plain s inner (.node d w)) (checkMap s inner d w) := by
  have readable : FailsWith Plain (members d w) := by
    unfold members
    split
    · exact .ok _
    · exact .ite (.error ⟨rfl, rfl⟩) (.ok _)
    · exact .error ⟨rfl, rfl⟩
  unfold checkMap
  dsimp only
  refine (arises_of_plain readable _).bind fun ms read =>
    (arises_of_plain (plain_checkCollection _) _).bind fun _ _ =>
    (arises_of_plain (plain_checkKeys _ _) _).bind fun _ _ =>
    .bind (.forM fun f _ => .ite (arises_error ⟨rfl, rfl⟩) (.ok _)) fun _ _ =>
    .bind (.forM fun f listed => ?_) fun _ _ => arises_of_plain (plain_checkBounds _ _ _) _
  split
  · next v found =>
    exact arises_under (b := .field d f v) (.inl (selects_of_members kind read listed found))
  · exact .ok _

/-- The key of an object is written in a path as it is, or as the number that it stands for. -/
theorem keyText_valueOfKey (k : TypeDefinition) (key : String) :
    keyText (valueOfKey k key) = key ∨ Respells k key (keyText (valueOfKey k key)) := by
  unfold valueOfKey
  split
  · next kind =>
    cases read : Numeral.int64? key with
    | none => exact .inl rfl
    | some n =>
      by_cases same : (Json.ofInt64 n).text = key
      · exact .inl same
      · exact .inr (.integer kind read same)
  · next kind =>
    cases read : Binary64.real? key with
    | none => exact .inl rfl
    | some x =>
      by_cases same : (Json.real x).text = key
      · exact .inl same
      · exact .inr (.number kind read same)
  · exact .inl rfl

theorem leads_of_entries {k t : TypeDefinition} (kind : d.baseType = .mapOf)
    (keys : d.options.ktype.bind s.lookup? = some k)
    (type : d.options.vtype.bind s.lookup? = some t) {w : Json} {es : List (Json × Json)}
    (read : entries d k w = .ok es) {e : Json × Json} (listed : e ∈ es) {b : Spot}
    (part : b ∈ entrySpots k t e) :
    Selects s (.node d w) (keyText e.1) b ∨ Restates s (.node d w) (keyText e.1) b := by
  unfold entries at read
  dsimp only at read
  split at read
  · cases read
    obtain ⟨⟨key, v⟩, own, rfl⟩ := List.mem_map.mp listed
    rcases keyText_valueOfKey k key with same | respelled
    · exact .inl (by simpa only [same] using .entry kind keys type own part)
    · exact .inr (.entry kind keys type own respelled part)
  · next values =>
    cases pairs : pairs? values with
    | none =>
      rw [pairs] at read
      cases read
    | some es' =>
      rw [pairs] at read
      cases read
      exact .inl (.pair kind keys type pairs listed part)
  · cases read

theorem arises_checkMapOf (kind : d.baseType = .mapOf) (w : Json) :
    FailsWith (Arises Plain s inner (.node d w)) (checkMapOf s inner d w) := by
  unfold checkMapOf
  refine arises_partType.bind fun k keys => arises_partType.bind fun t type => ?_
  have readable : FailsWith Plain (entries d k w) := by
    unfold entries
    dsimp only
    split
    · exact .ok _
    · next values => cases pairs? values with
      | none => exact .error ⟨rfl, rfl⟩
      | some es => exact .ok es
    · exact .error ⟨rfl, rfl⟩
  refine (arises_of_plain readable _).bind fun es read =>
    (arises_of_plain (plain_checkCollection _) _).bind fun _ _ =>
    .bind (.forM fun e listed => ?_) fun _ _ => arises_of_plain (plain_checkBounds _ _ _) _
  have leads := fun {b} => leads_of_entries (b := b) kind (partType_eq_ok_iff.mp keys)
    (partType_eq_ok_iff.mp type) read listed
  refine .bind ?_ fun _ _ => ?_
  · exact arises_under (b := .node k e.1) (leads List.mem_cons_self)
  · exact arises_under (b := .node t e.2) (leads (List.mem_cons_of_mem _ List.mem_cons_self))

/-- An error at a value is as described if it is plain or that of a pattern, or it is one at a part
of the value. -/
theorem arises_checkLevel {P : ValidationError → Prop} (plain : ∀ e, Plain e → P e)
    (compiled : ∀ source, d.options.pattern = some source → FailsWith P (pattern s d source))
    (w : Json) : FailsWith (Arises P s inner (.node d w)) (checkLevel s inner d w) := by
  have structured : ∀ x : Outcome, FailsWith (Arises Plain s inner (.node d w)) x →
      FailsWith (Arises P s inner (.node d w)) x :=
    fun x h => h.mono fun e => Or.imp_left (plain e)
  cases kind : d.baseType with
  | choice => exact checkLevel_of_choice kind w ▸ structured _ (arises_checkChoice kind w)
  | array => exact checkLevel_of_array kind w ▸ structured _ (arises_checkArray kind w)
  | arrayOf => exact checkLevel_of_arrayOf kind w ▸ structured _ (arises_checkArrayOf kind w)
  | mapOf => exact checkLevel_of_mapOf kind w ▸ structured _ (arises_checkMapOf kind w)
  | map => exact checkLevel_of_members (.inl kind) w ▸ structured _ (arises_checkMap (.inl kind) w)
  | record =>
    exact checkLevel_of_members (.inr kind) w ▸ structured _ (arises_checkMap (.inr kind) w)
  | _ =>
    refine (failsWith_checkLevel plain compiled inner ?_ w).mono fun _ => .inl
    simp [TypeDefinition.isPrimitive, TypeDefinition.isEnumeration, kind, BaseType.isPrimitive]

theorem arises_checkLevel_own (w : Json) :
    FailsWith (Arises (·.path = []) s inner (.node d w)) (checkLevel s inner d w) :=
  arises_checkLevel (fun _ h => h.1) (fun source _ => own_pattern source) w

/-- An error at the value of a field is one of the field itself or of an occurrence, or one at the
value as a whole. -/
theorem arises_checkField (owner : TypeDefinition) (f : Field) (v : Json) :
    FailsWith (fun e => Arises Plain s inner (.field owner f v) e ∨
        ∃ t, s.fieldType? owner.name f = some t ∧ f.isRepeated = false ∧ inner t v = .error e)
      (checkField s inner owner f v) := by
  unfold checkField
  cases type : s.fieldType? owner.name f with
  | none => exact .error (.inl (.inl ⟨rfl, rfl⟩))
  | some t =>
    cases often : f.isRepeated with
    | false =>
      intro e failed
      exact .inr ⟨t, rfl, rfl, failed⟩
    | true =>
      cases v with
      | arr values =>
        simp only [Json.arr?, Bool.not_true, Bool.false_eq_true, if_false]
        refine .ite (.error (Or.inl (.inl ⟨rfl, rfl⟩))) (FailsWith.forM fun p member => ?_)
        have value := List.mem_zipIdx_iff_getElem?.mp member
        exact (arises_under (b := .node t p.1) (.inl (.occurrence type often value))).mono
          fun _ => .inl
      | _ => exact .error (.inl (.inl ⟨rfl, rfl⟩))

end Levels

section Paths

variable {s : Schema}

/-- The path of an error leads to where a check fails with just this error. -/
def Reached (s : Schema) (a : Spot) (e : ValidationError) : Prop :=
  ∃ b levels, Follows s a e.path b ∧
    b.check s (checkLevels s levels) = .error { e with path := [] }

theorem reached_of_own (levels : Nat) {a : Spot} {e : ValidationError} (own : e.path = [])
    (failed : a.check s (checkLevels s levels) = .error e) : Reached s a e := by
  refine ⟨a, levels, own ▸ .here a, failed.trans ?_⟩
  cases e
  cases own
  rfl

theorem reached_under {a b : Spot} {segment : String} {e : ValidationError}
    (part : Selects s a segment b ∨ Restates s a segment b) (reached : Reached s b e) :
    Reached s a (e.under segment) := by
  obtain ⟨c, levels, path, failed⟩ := reached
  refine ⟨c, levels, ?_, failed⟩
  rcases part with selected | restated
  · exact .select selected path
  · exact .restate restated path

theorem reached_of_nodes {levels : Nat}
    (nodes : ∀ t v, FailsWith (Reached s (.node t v)) (checkLevels s levels t v)) :
    ∀ a, FailsWith (Reached s a) (a.check s (checkLevels s levels))
  | .node t v => nodes t v
  | .field owner f v => by
    intro e failed
    rcases arises_checkField owner f v e failed with located | ⟨t, type, once, here⟩
    · rcases located with own | ⟨segment, b, own, part, here, rfl⟩
      · exact reached_of_own levels own.1 failed
      · apply reached_under part
        rcases part with selected | restated
        · cases selected with
          | occurrence => exact nodes _ _ own here
        · cases restated
    · obtain ⟨c, n, path, failed⟩ := nodes t v e here
      exact ⟨c, n, .whole type once path, failed⟩

/-- However many levels a check may go down, its error is reached. -/
theorem reached_check (levels : Nat) :
    ∀ a, FailsWith (Reached s a) (a.check s (checkLevels s levels)) := by
  induction levels with
  | zero => exact reached_of_nodes fun t v e failed =>
      reached_of_own 0 (by cases failed; rfl) failed
  | succ levels ih =>
    refine reached_of_nodes fun d v e failed => ?_
    rcases arises_checkLevel_own v e failed with own | ⟨segment, b, own, part, here, rfl⟩
    · exact reached_of_own (levels + 1) own failed
    · exact reached_under part (ih b own here)

end Paths
end Jadn.Validation

namespace Jadn.Schema

open Validation

/-- The path of an error starts with the type that was asked for and leads from the verbose form of
the instance to where a check fails with just this error. Each of its segments selects a part of
what was reached before; only the key of an object whose keys are numbers is restated as the number
that it stands for, and then need not be a key of the object. -/
theorem path_of_validate {s : Schema} {name : String} {d : TypeDefinition}
    (found : s.lookup? name = some d) {v : Json} {e : ValidationError}
    (failed : s.validate name v = .error e) :
    ∃ segments b levels, e.path = name :: segments ∧
      Follows s (.node d (d.expand s v)) segments b ∧
        b.check s (checkLevels s levels) = .error { e with path := [] } := by
  unfold validate at failed
  rw [found] at failed
  obtain ⟨own, here, rfl⟩ := Except.mapError_eq_error_iff.mp failed
  obtain ⟨b, levels, path, ends⟩ := reached_check _ (.node d (d.expand s v)) own here
  exact ⟨own.path, b, levels, rfl, path, ends⟩

def ledger : TypeDefinition where
  name := "Ledger"
  options := { ktype := some "Integer", vtype := some "Integer" }
  description := ""
  kind := .mapOf

def ledgers : Schema where
  info := {}
  types := [ledger]
  limits := {}
  extensions := []
  fieldTypes := []
  patterns := []

/-- The path of an error at an entry holds the number that the key stands for, which is no key of
the object here. -/
theorem path_of_ledger :
    ∃ e, ledgers.validate "Ledger" (.obj [("+5", .str "x")]) = .error e ∧
      ∃ segments b levels, e.path = "Ledger" :: segments ∧
        Follows ledgers (.node ledger (ledger.expand ledgers (.obj [("+5", .str "x")])))
          segments b ∧
          b.check ledgers (checkLevels ledgers levels) = .error { e with path := [] } := by
  have failed : ∃ e, ledgers.validate "Ledger" (.obj [("+5", .str "x")]) = .error e := ⟨_, rfl⟩
  obtain ⟨e, failed⟩ := failed
  exact ⟨e, failed, path_of_validate rfl failed⟩

example : (match ledgers.validate "Ledger" (.obj [("+5", .str "x")]) with
    | .ok _ => []
    | .error e => e.path) = ["Ledger", "5"] := by decide +kernel

end Jadn.Schema
