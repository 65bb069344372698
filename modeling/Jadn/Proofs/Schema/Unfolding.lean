import Jadn.Proofs.Schema.Matching
import Jadn.Schema.Unfolding

/-!
What unfolding a schema does to it.

A traversal of the marked references visits the names behind the markers, so the unfolded
definitions are those of the schema with names in place of marked references, and the
enumerations added are those that such names stand for.
-/

set_option autoImplicit false

namespace Jadn

section Marked

def markedNames (references : List String) : List String :=
  (references.filter fun a => (splitMarker a).1).map fun a => (splitMarker a).2

theorem markedNames_append (as bs : List String) :
    markedNames (as ++ bs) = markedNames as ++ markedNames bs := by
  simp [markedNames]

theorem markedNames_flatMap {α : Type} (f : α → List String) (as : List α) :
    markedNames (as.flatMap f) = as.flatMap fun a => markedNames (f a) := by
  simp [markedNames, List.filter_flatMap, List.map_flatMap]

def unmark (g : String → String) (reference : String) : String :=
  if (splitMarker reference).1 then g (splitMarker reference).2 else reference

theorem Visits.mapMarkedReference (x : String) :
    Visits (fun _ _ f => TypeDefinition.mapMarkedReference f x) (markedNames [x]) := by
  cases parts : splitMarker x with
  | mk marked name =>
    cases marked with
    | true =>
      simp only [TypeDefinition.mapMarkedReference, markedNames, parts, List.filter_cons, if_true,
        List.filter_nil, List.map_cons, List.map_nil]
      exact Visits.name name
    | false =>
      simp only [TypeDefinition.mapMarkedReference, markedNames, parts, List.filter_cons,
        Bool.false_eq_true, if_false, List.filter_nil, List.map_nil]
      exact Visits.pure x

namespace TypeDefinition

theorem visits_mapMarkedReferences (d : TypeDefinition) :
    Visits (fun _ _ f => d.mapMarkedReferences f) (markedNames d.lookedUp) := by
  have one : ∀ r : Option String, Visits (fun m _ f => r.mapM (mapMarkedReference f))
      (markedNames r.toList) := by
    intro r
    have all := Visits.option Visits.mapMarkedReference r
    rwa [← markedNames_flatMap, List.flatMap_singleton'] at all
  have inOptions : ∀ o : Options, Visits (fun _ _ f => mapMarkedInOptions f o)
      (markedNames (o.vtype.toList ++ o.ktype.toList)) := by
    intro o
    have all := (one o.vtype).bind fun vtype => (one o.ktype).bind fun ktype =>
      Visits.pure { o with vtype, ktype }
    rw [List.append_nil, ← markedNames_append] at all
    exact all
  have inField : ∀ field : Field, Visits (fun _ _ f => mapMarkedInField f field)
      (markedNames (field.typeRef :: (field.options.vtype.toList ++ field.options.ktype.toList))) := by
    intro field
    have all := (Visits.mapMarkedReference field.typeRef).bind fun typeRef =>
      (inOptions field.options).bind fun options => Visits.pure { field with typeRef, options }
    rw [List.append_nil, ← markedNames_append] at all
    exact all
  have all := (inOptions d.options).bind fun options =>
    (visits_mapFields inField d.kind).bind fun kind => Visits.pure { d with options, kind }
  rw [List.append_nil, ← markedNames_flatMap, ← markedNames_append] at all
  exact all

end TypeDefinition

/-- A traversal in state, of names that are answered whatever the state, is one without it. -/
theorem run_of_visits {α σ : Type} {t : Traversal α} {names : List String} (h : Visits t names)
    {f : String → StateM σ String} {g : String → String} {next : σ → String → σ}
    (answer : ∀ x st, (f x).run st = (g x, next st x)) (st : σ) :
    (t (StateM σ) f).run st = (t Id g, names.foldl next st) := by
  have listed : ∀ (names : List String) (st : σ),
      (names.mapM f).run st = (names.map g, names.foldl next st) := by
    intro names
    induction names with
    | nil => exact fun st => rfl
    | cons x names ih =>
      intro st
      have head : ((x :: names).mapM f).run st = ((f x).run st >>= fun p =>
          (names.mapM f).run p.2 >>= fun q => (p.1 :: q.1, q.2) : Id (List String × σ)) := by
        rw [List.mapM_cons]
        rfl
      rw [head, answer]
      exact congrArg (fun p => (g x :: p.1, p.2)) (ih (next st x))
  have inState := h (StateM σ) f [] fun p => pure p.1
  have inId := h Id g [] fun p => pure p.1
  simp only [List.append_nil, List.mapM_nil, pure_bind, bind_pure] at inState inId
  rw [mapM_id] at inId
  rw [← inState, ← inId, StateT.run_bind, listed]
  rfl

end Marked

section Replaced

variable {known : String → String → Prop} {g : String → String}

theorem mapMarkedReference_id (a : String) :
    TypeDefinition.mapMarkedReference (m := Id) g a = unmark g a := by
  unfold TypeDefinition.mapMarkedReference unmark
  cases parts : splitMarker a with
  | mk marked name => cases marked <;> rfl

theorem agree_mapMarkedInOptions {o : Options}
    (h : ∀ a ∈ o.vtype.toList ++ o.ktype.toList, known a (unmark g a)) :
    o.Agree known (TypeDefinition.mapMarkedInOptions (m := Id) g o) := by
  have one : ∀ r : Option String, (∀ a ∈ r, known a (unmark g a)) →
      Option.Rel known r (r.mapM (TypeDefinition.mapMarkedReference (m := Id) g)) := by
    intro r each
    cases r with
    | none => exact .none
    | some a => exact .some (mapMarkedReference_id (g := g) a ▸ each a rfl)
  refine ⟨rfl, rel_refl fun x _ => BEq.rfl, rel_refl fun x _ => BEq.rfl, ?_, ?_⟩
  · exact one o.vtype fun a ha => h a (by simp [Option.mem_def.mp ha])
  · exact one o.ktype fun a ha => h a (by simp [Option.mem_def.mp ha])

theorem matches_mapMarkedInField {f : Field}
    (h : ∀ a, a = f.typeRef ∨ a ∈ f.options.vtype.toList ++ f.options.ktype.toList →
      known a (unmark g a)) :
    Field.Matches known f (TypeDefinition.mapMarkedInField (m := Id) g f) where
  id := rfl
  name := rfl
  options := agree_mapMarkedInOptions fun a ha => h a (Or.inr ha)
  typeRef := by
    have own := h f.typeRef (Or.inl rfl)
    rw [← mapMarkedReference_id] at own
    exact own

theorem Kind.alike_mapFields {R : Field → Field → Prop} {t : Field → Field} {k : Kind}
    (h : ∀ f ∈ k.fields, R f (t f)) : k.Alike R (k.mapFields (m := Id) t) := by
  have each : ∀ fs : List Field, (∀ f ∈ fs, R f (t f)) →
      List.Forall₂ R fs (fs.mapM (m := Id) t) := by
    intro fs related
    rw [mapM_id, List.forall₂_map_right_iff]
    exact List.forall₂_same.mpr related
  cases k with
  | choice fs => exact .choice (each fs h)
  | array fs => exact .array (each fs h)
  | map fs => exact .map (each fs h)
  | record fs => exact .record (each fs h)
  | _ => constructor

theorem TypeDefinition.agree_mapMarkedReferences {d : TypeDefinition}
    (h : ∀ a ∈ d.lookedUp, known a (unmark g a)) :
    d.options.Agree known (d.mapMarkedReferences (m := Id) g).options ∧
      d.kind.Alike (Field.Matches known) (d.mapMarkedReferences (m := Id) g).kind := by
  refine ⟨agree_mapMarkedInOptions fun a ha => h a (List.mem_append_left _ ha), ?_⟩
  refine Kind.alike_mapFields fun f hf => matches_mapMarkedInField fun a ha => ?_
  exact h a (mem_lookedUp_of_field hf ha)

theorem Kind.fields_mapFields {t : Field → Field} (k : Kind) :
    (k.mapFields (m := Id) t).fields = k.fields.map t := by
  cases k with
  | choice fs | array fs | map fs | record fs => exact mapM_id t fs
  | _ => rfl

theorem Kind.mapFields_eq_self {t : Field → Field} {k : Kind} (same : ∀ f ∈ k.fields, t f = f) :
    k.mapFields (m := Id) t = k := by
  have each : ∀ fs : List Field, (∀ f ∈ fs, t f = f) → fs.mapM (m := Id) t = fs := by
    intro fs same
    rw [mapM_id, List.map_congr_left same, List.map_id']
  cases k with
  | choice fs => exact congrArg Kind.choice (each fs same)
  | array fs => exact congrArg Kind.array (each fs same)
  | map fs => exact congrArg Kind.map (each fs same)
  | record fs => exact congrArg Kind.record (each fs same)
  | _ => rfl

theorem Options.mapMarkedInOptions_id {o : Options} :
    TypeDefinition.mapMarkedInOptions (m := Id) g o =
      { o with vtype := o.vtype.map (unmark g), ktype := o.ktype.map (unmark g) } := by
  have one : ∀ r : Option String,
      r.mapM (TypeDefinition.mapMarkedReference (m := Id) g) = r.map (unmark g) := by
    intro r
    cases r with
    | none => rfl
    | some a => exact congrArg some (mapMarkedReference_id a)
  simp only [TypeDefinition.mapMarkedInOptions, one]
  rfl

namespace TypeDefinition

variable {d : TypeDefinition}

theorem mapMarkedInField_id {f : Field} : mapMarkedInField (m := Id) g f =
    { f with
      typeRef := unmark g f.typeRef
      options := mapMarkedInOptions (m := Id) g f.options } := by
  rw [← mapMarkedReference_id]
  rfl

theorem fields_mapMarkedReferences :
    (d.mapMarkedReferences (m := Id) g).fields =
      d.fields.map (mapMarkedInField (m := Id) g) :=
  d.kind.fields_mapFields

theorem lookedUp_mapMarkedReferences :
    (d.mapMarkedReferences (m := Id) g).lookedUp = d.lookedUp.map (unmark g) := by
  have options : (d.mapMarkedReferences (m := Id) g).options =
      mapMarkedInOptions (m := Id) g d.options := rfl
  unfold lookedUp
  rw [options, fields_mapMarkedReferences, List.flatMap_map, List.map_append, List.map_flatMap]
  simp only [Options.mapMarkedInOptions_id, mapMarkedInField_id, List.map_append, List.map_cons,
    Option.toList_map]

theorem mapMarkedReferences_eq_self (unmarked : ∀ a ∈ d.lookedUp, Unmarked a) :
    d.mapMarkedReferences (m := Id) g = d := by
  have one : ∀ a, Unmarked a → unmark g a = a := by
    intro a unmarked
    rw [unmark, show (splitMarker a).1 = false from unmarked, if_neg Bool.false_ne_true]
  have inOptions : ∀ o : Options, (∀ a ∈ o.vtype.toList ++ o.ktype.toList, Unmarked a) →
      mapMarkedInOptions (m := Id) g o = o := by
    intro o unmarked
    have keep : ∀ r : Option String, (∀ a ∈ r, Unmarked a) → r.map (unmark g) = r := by
      intro r unmarked
      cases r with
      | none => rfl
      | some a => exact congrArg some (one a (unmarked a rfl))
    rw [Options.mapMarkedInOptions_id,
      keep o.vtype fun a ha => unmarked a (by simp [Option.mem_def.mp ha]),
      keep o.ktype fun a ha => unmarked a (by simp [Option.mem_def.mp ha])]
  have kind : d.kind.mapFields (m := Id) (mapMarkedInField (m := Id) g) = d.kind := by
    refine Kind.mapFields_eq_self fun f hf => ?_
    rw [mapMarkedInField_id, one f.typeRef (unmarked _ (mem_lookedUp_of_field hf (Or.inl rfl))),
      inOptions f.options fun a ha => unmarked a (mem_lookedUp_of_field hf (Or.inr ha))]
  have options := inOptions d.options fun a ha => unmarked a (List.mem_append_left _ ha)
  calc d.mapMarkedReferences (m := Id) g
      = { d with
          options := mapMarkedInOptions (m := Id) g d.options
          kind := d.kind.mapFields (m := Id) (mapMarkedInField (m := Id) g) } := rfl
    _ = d := by rw [options, kind]

end TypeDefinition

end Replaced

namespace Schema

variable (s : Schema)

/-- The name that is put in place of a marked reference to another one. -/
def unfoldedName (source : String) : String :=
  ((s.extensions.lookup (markedReference source)).map (·.name)).getD (markedReference source)

def addMarked (added : Added) (source : String) : Added :=
  match s.extensions.lookup (markedReference source) with
  | some d => s.addDefinition d added
  | none => added

def unfoldedType (d : TypeDefinition) : TypeDefinition :=
  (s.withItems d).mapMarkedReferences (m := Id) s.unfoldedName

def addedTypes : Added :=
  (s.types.flatMap fun d => markedNames (s.withItems d).lookedUp).foldl s.addMarked []

theorem unfoldReference_run (source : String) (added : Added) :
    (s.unfoldReference source).run added = (s.unfoldedName source, s.addMarked added source) := by
  unfold unfoldReference unfoldedName addMarked
  cases s.extensions.lookup (markedReference source) <;> rfl

theorem unfoldedTypes_run :
    s.unfoldedTypes.run [] = (s.types.map s.unfoldedType, s.addedTypes) := by
  have visits := Visits.list (fun d => (s.withItems d).visits_mapMarkedReferences) s.types
  have run := run_of_visits visits (f := s.unfoldReference) s.unfoldReference_run []
  have types : (s.types.mapM (m := Id) fun d =>
      (s.withItems d).mapMarkedReferences (m := Id) s.unfoldedName) = s.types.map s.unfoldedType :=
    mapM_id s.unfoldedType s.types
  rw [types] at run
  exact run

variable {s}

theorem unfold_eq_ok {u : Schema} {order : HashOrder} (h : s.unfold order = .ok u) :
    Tables s.info (s.types.map s.unfoldedType ++ s.addedTypes.values) s.limits u := by
  have types := s.unfoldedTypes_run
  unfold unfold at h
  rw [types] at h
  exact tables_of_build h

section Added

/-- Added definitions are enumerations that marked references stand for, under their names,
which are not declared. -/
def AddedFrom (s : Schema) (added : Added) : Prop :=
  ∀ n e, (n, e) ∈ added → e.name = n ∧ s.get? n = none ∧
    ∃ x, s.extensions.lookup (markedReference x) = some e

theorem AddedFrom.addMarked {added : Added} (h : AddedFrom s added) (source : String) :
    AddedFrom s (s.addMarked added source) := by
  unfold Schema.addMarked addDefinition
  cases found : s.extensions.lookup (markedReference source) with
  | none => exact h
  | some d =>
    by_cases there : ((s.get? d.name).isSome || added.contains d.name) = true
    · simp only [there, if_true]
      exact h
    · simp only [there, Bool.false_eq_true, if_false]
      rw [Bool.not_eq_true, Bool.or_eq_false_iff, Option.isSome_eq_false_iff,
        Option.isNone_iff_eq_none] at there
      have fresh : d.name ∉ added.keys := by
        rw [← Dict.contains_iff_mem_keys, there.2]
        exact Bool.false_ne_true
      rw [Dict.insert_of_not_mem d fresh]
      intro n e member
      rcases List.mem_append.mp member with before | last
      · exact h n e before
      · obtain ⟨rfl, rfl⟩ := Prod.mk.inj (List.mem_singleton.mp last)
        exact ⟨rfl, there.1, source, found⟩

theorem contains_addMarked {added : Added} {n source : String} (h : added.contains n = true) :
    (s.addMarked added source).contains n = true := by
  unfold addMarked addDefinition
  cases s.extensions.lookup (markedReference source) with
  | none => exact h
  | some d =>
    dsimp only
    split
    · exact h
    · by_cases same : n = d.name
      · simp [Dict.contains, same]
      · rw [Dict.contains, Dict.lookup_insert_of_ne _ _ same]
        exact h

theorem contains_addMarked_self {added : Added} {source : String} {d : TypeDefinition}
    (found : s.extensions.lookup (markedReference source) = some d)
    (undeclared : s.get? d.name = none) :
    (s.addMarked added source).contains d.name = true := by
  simp only [addMarked, found, addDefinition, undeclared, Option.isSome_none, Bool.false_or]
  split
  · assumption
  · simp [Dict.contains]

theorem addedFrom_addedTypes : AddedFrom s s.addedTypes := by
  have all : ∀ (names : List String) (added : Added), AddedFrom s added →
      AddedFrom s (names.foldl s.addMarked added) := by
    intro names
    induction names with
    | nil => exact fun added h => h
    | cons x names ih => exact fun added h => ih _ (h.addMarked x)
  exact all _ [] (by simp [AddedFrom])

/-- The enumeration that a marked reference stands for is added, unless its name is declared. -/
theorem contains_addedTypes {x : String} {e : TypeDefinition} {d : TypeDefinition}
    (hd : d ∈ s.types) (stands : x ∈ markedNames (s.withItems d).lookedUp)
    (found : s.extensions.lookup (markedReference x) = some e)
    (undeclared : s.get? e.name = none) : s.addedTypes.contains e.name = true := by
  have kept : ∀ (names : List String) (added : Added), added.contains e.name = true →
      (names.foldl s.addMarked added).contains e.name = true := by
    intro names
    induction names with
    | nil => exact fun added h => h
    | cons y names ih => exact fun added h => ih _ (contains_addMarked h)
  have all : ∀ (names : List String) (added : Added), x ∈ names →
      (names.foldl s.addMarked added).contains e.name = true := by
    intro names
    induction names with
    | nil => exact fun added member => absurd member List.not_mem_nil
    | cons y names ih =>
      intro added member
      rcases List.mem_cons.mp member with rfl | later
      · exact kept names _ (contains_addMarked_self found undeclared)
      · exact ih _ later
  exact all _ [] (List.mem_flatMap.mpr ⟨d, hd, stands⟩)

end Added

end Schema

end Jadn
