import Jadn.Name
import Jadn.Proofs.WellFormed

/-!
The names that a definition refers to, and what replacing them does.

A traversal of the references visits the names in order. What it builds is determined by the
names that it is given for them: running it on a supply of names refills the definition, and a
run in any monad is a run over the list of names followed by a refilling.
-/

set_option autoImplicit false

namespace Jadn

section Markers

theorem splitMarker_markedReference (name : String) :
    splitMarker (markedReference name) = (true, name) := by
  simp [splitMarker, markedReference]

theorem markedReference_ne_empty (name : String) : markedReference name ≠ "" := by
  intro empty
  have text := congrArg String.toList empty
  simp [markedReference] at text

theorem splitMarker_of_marked {reference : String} (h : (splitMarker reference).1 = true) :
    reference = markedReference (splitMarker reference).2 := by
  unfold splitMarker at h ⊢
  split at h
  · next name text =>
    apply String.toList_inj.mp
    simp [text, markedReference]
  · cases h

theorem splitMarker_of_unmarked {reference : String} (h : (splitMarker reference).1 = false) :
    (splitMarker reference).2 = reference := by
  unfold splitMarker at h ⊢
  split at h
  · cases h
  · rfl

theorem splitMarker_inj {a b : String} : splitMarker a = splitMarker b ↔ a = b := by
  constructor
  · intro same
    cases marked : (splitMarker a).1 with
    | true =>
      have marked' : (splitMarker b).1 = true := same ▸ marked
      rw [splitMarker_of_marked marked, splitMarker_of_marked marked', same]
    | false =>
      have marked' : (splitMarker b).1 = false := same ▸ marked
      rw [← splitMarker_of_unmarked marked, ← splitMarker_of_unmarked marked', same]
  · rintro rfl
    rfl

/-- A name that is not taken for a marked reference. -/
def Unmarked (name : String) : Prop := (splitMarker name).1 = false

theorem unmarked_iff {name : String} : Unmarked name ↔ name.toList.head? ≠ some '#' := by
  unfold Unmarked splitMarker
  cases text : name.toList with
  | nil => simp
  | cons c cs => by_cases marker : c = '#' <;> simp [marker]

theorem Unmarked.not_marked {name : String} (h : Unmarked name) : ¬ (splitMarker name).1 = true :=
  Bool.eq_false_iff.mp h

theorem plain_of_isTypeName {name : String} (form : Name.isTypeName name = true) :
    ':' ∉ name.toList ∧ Unmarked name := by
  have first : ∀ c : Char, c.isUpper = true → c ≠ '#' ∧ c ≠ ':' := by
    intro c upper
    constructor <;> rintro rfl <;> revert upper <;> decide
  have later : ∀ c : Char, (c.isAlphanum || c = '-' || c = '$') = true → c ≠ ':' := by
    rintro c listed rfl
    revert listed
    decide
  unfold Name.isTypeName Name.hasForm at form
  split at form
  · cases form
  · next c cs text =>
    simp only [Bool.and_eq_true, List.all_eq_true] at form
    obtain ⟨⟨upper, -⟩, rest⟩ := form
    refine ⟨?_, unmarked_iff.mpr ?_⟩
    · rw [text, List.mem_cons, not_or]
      exact ⟨(first c upper).2.symm, fun member => later _ (rest _ member) rfl⟩
    · rw [text]
      simpa using (first c upper).1

theorem splitNamespace_of_not_mem {x : String} (plain : ':' ∉ x.toList) :
    Name.splitNamespace x = (none, x) := by
  have none : Text.cutList? ':' x.toList = none := Text.cutList?_eq_none_iff.mpr plain
  simp [Name.splitNamespace, Text.cut?, none]

theorem unmarked_of_baseType {x : String} (base : (BaseType.ofName? x).isSome) : Unmarked x := by
  obtain ⟨b, known⟩ := Option.isSome_iff_exists.mp base
  rw [BaseType.ofName?_eq_some_iff.mp known]
  cases b <;> rfl

theorem ofName?_of_hyphen {name : String} (h : '-' ∈ name.toList) : BaseType.ofName? name = none := by
  have without : ∀ b : BaseType, '-' ∉ b.name.toList := by
    intro b
    cases b <;> decide
  cases known : BaseType.ofName? name with
  | none => rfl
  | some b =>
    rw [BaseType.ofName?_eq_some_iff.mp known] at h
    exact absurd h (without b)

def remark (g : String → String) (reference : String) : String :=
  if (splitMarker reference).1 then markedReference (g (splitMarker reference).2)
  else g (splitMarker reference).2

theorem remark_of_fixed {g : String → String} {reference : String}
    (fixed : g (splitMarker reference).2 = (splitMarker reference).2) :
    remark g reference = reference := by
  unfold remark
  rw [fixed]
  cases marked : (splitMarker reference).1 with
  | true => exact (splitMarker_of_marked marked).symm
  | false => exact splitMarker_of_unmarked marked

/-- A marker is kept if the new name is not taken for a marked reference, or not new. -/
theorem splitMarker_remark {g : String → String} {reference : String}
    (kept : Unmarked (g (splitMarker reference).2) ∨
      g (splitMarker reference).2 = (splitMarker reference).2) :
    splitMarker (remark g reference) = ((splitMarker reference).1, g (splitMarker reference).2) := by
  rcases kept with unmarked | fixed
  · unfold remark
    cases marked : (splitMarker reference).1 with
    | true => simp [splitMarker_markedReference]
    | false =>
      simp only [Bool.false_eq_true, if_false]
      exact Prod.ext_iff.mpr ⟨unmarked, splitMarker_of_unmarked unmarked⟩
  · rw [remark_of_fixed fixed, fixed]

end Markers

section Visits

def supply (_ : String) : StateM (List String) String :=
  modifyGet fun names => (names.headD "", names.tail)

abbrev Traversal (α : Type) := (m : Type → Type) → [Monad m] → (String → m String) → m α

/-- A traversal visits exactly these names: to run it and then to visit further names is to
visit all names and then to refill from them, the rest being left over. -/
def Visits {α : Type} (t : Traversal α) (names : List String) : Prop :=
  ∀ (m : Type → Type) [Monad m] [LawfulMonad m] (f : String → m String) (rest : List String)
    {β : Type} (k : α × List String → m β),
    ((names ++ rest).mapM f >>= fun ys => k ((t (StateM (List String)) supply).run ys).run) =
      t m f >>= fun a => rest.mapM f >>= fun ys => k (a, ys)

namespace Visits

variable {α β : Type}

theorem pure (a : α) : Visits (fun _ _ _ => Pure.pure a) [] := by
  intro m _ _ f rest β k
  simp

theorem bind {t : Traversal α} {u : α → Traversal β} {names others : List String}
    (first : Visits t names) (second : ∀ a, Visits (u a) others) :
    Visits (fun m _ f => t m f >>= fun a => u a m f) (names ++ others) := by
  intro m _ _ f rest γ k
  have outer := first m f (others ++ rest) fun p =>
    k ((u p.1 (StateM (List String)) supply).run p.2).run
  have inner := fun a => second a m f rest k
  simp only [List.append_assoc, bind_assoc] at outer ⊢
  rw [← bind_congr inner]
  exact outer

theorem map {t : Traversal α} {names : List String} (g : α → β) (h : Visits t names) :
    Visits (fun m _ f => g <$> t m f) names := by
  intro m _ _ f rest γ k
  have all := h.bind (fun a => Visits.pure (g a)) m f rest k
  simp only [List.append_nil] at all
  simp only [map_eq_pure_bind]
  exact all

theorem name (x : String) : Visits (fun _ _ f => f x) [x] := by
  intro m _ _ f rest β k
  simp [supply]

theorem mapReference (x : String) :
    Visits (fun _ _ f => Jadn.mapReference f x) [(splitMarker x).2] :=
  (Visits.name _).bind fun _ => Visits.pure _

theorem option {t : α → Traversal β} {names : α → List String} (h : ∀ a, Visits (t a) (names a))
    (o : Option α) :
    Visits (fun m _ f => o.mapM fun a => t a m f) (o.toList.flatMap names) := by
  cases o with
  | none => exact Visits.pure none
  | some a =>
    have visited : Visits (fun m _ f => some <$> t a m f) (names a ++ []) := by
      rw [List.append_nil]
      exact (h a).map some
    exact visited

theorem list {t : α → Traversal β} {names : α → List String} (h : ∀ a, Visits (t a) (names a))
    (as : List α) :
    Visits (fun m _ f => as.mapM fun a => t a m f) (as.flatMap names) := by
  induction as with
  | nil =>
    intro m _ _ f rest γ k
    simp
  | cons a as ih =>
    intro m _ _ f rest γ k
    have all := (h a).bind (fun b => ih.map (b :: ·)) m f rest k
    simp only [map_eq_pure_bind] at all
    simp only [List.mapM_cons]
    exact all

end Visits

end Visits

namespace Options

theorem visits_mapReferences (o : Options) :
    Visits (fun _ _ f => o.mapReferences f) o.references := by
  have one := fun r : Option String =>
    Visits.option (fun x => Visits.mapReference x) r
  have all := (one o.vtype).bind fun vtype => (one o.ktype).bind fun ktype =>
    (one o.enumeration).bind fun enumeration => (one o.pointer).bind fun pointer =>
      Visits.pure { o with vtype, ktype, enumeration, pointer }
  have names : o.references = (o.vtype.toList.flatMap fun x => [(splitMarker x).2]) ++
      ((o.ktype.toList.flatMap fun x => [(splitMarker x).2]) ++
        ((o.enumeration.toList.flatMap fun x => [(splitMarker x).2]) ++
          ((o.pointer.toList.flatMap fun x => [(splitMarker x).2]) ++ []))) := by
    simp [references, ← List.map_eq_flatMap]
  rw [names]
  exact all

end Options

namespace Field

/-- The names that a field refers to, without markers. -/
def referredNames (f : Field) : List String := (splitMarker f.typeRef).2 :: f.options.references

theorem visits_mapReferences (f : Field) :
    Visits (fun _ _ g => f.mapReferences g) f.referredNames := by
  have all := (Visits.mapReference f.typeRef).bind fun typeRef =>
    f.options.visits_mapReferences.bind fun options => Visits.pure { f with typeRef, options }
  simp only [List.append_nil] at all
  exact all

end Field

namespace TypeDefinition

/-- The names that a definition refers to, in the order in which they are replaced. -/
def referredNames (d : TypeDefinition) : List String :=
  d.options.references ++ d.fields.flatMap Field.referredNames

theorem visits_mapFields {t : Field → Traversal Field} {names : Field → List String}
    (h : ∀ f, Visits (t f) (names f)) (kind : Kind) :
    Visits (fun m _ g => kind.mapFields fun f => t f m g) (kind.fields.flatMap names) := by
  have fields := fun fs : List Field => Visits.list h fs
  cases kind with
  | choice fs => exact (fields fs).map Kind.choice
  | array fs => exact (fields fs).map Kind.array
  | map fs => exact (fields fs).map Kind.map
  | record fs => exact (fields fs).map Kind.record
  | _ => exact Visits.pure _

theorem visits_mapReferences (d : TypeDefinition) :
    Visits (fun _ _ g => d.mapReferences g) d.referredNames := by
  have all := d.options.visits_mapReferences.bind fun options =>
    (visits_mapFields Field.visits_mapReferences d.kind).bind fun kind =>
      Visits.pure { d with options, kind }
  simp only [List.append_nil] at all
  exact all

def refilled (d : TypeDefinition) (names : List String) : TypeDefinition :=
  ((d.mapReferences supply).run names).run.1

/-- To replace the references of a definition is to visit the names in order. -/
theorem mapReferences_eq (d : TypeDefinition) {m : Type → Type} [Monad m] [LawfulMonad m]
    (f : String → m String) : d.mapReferences f = d.refilled <$> d.referredNames.mapM f := by
  have all := d.visits_mapReferences m f [] fun p => pure p.1
  simp only [List.append_nil, List.mapM_nil, pure_bind, bind_pure] at all
  rw [← all, map_eq_pure_bind]
  rfl

/-- The references of a definition that are looked up when an instance is checked. -/
def lookedUp (d : TypeDefinition) : List String :=
  (d.options.vtype.toList ++ d.options.ktype.toList) ++
    d.fields.flatMap fun f => f.typeRef :: (f.options.vtype.toList ++ f.options.ktype.toList)

theorem mem_referredNames_of_lookedUp {d : TypeDefinition} {a : String}
    (h : a ∈ d.lookedUp) : (splitMarker a).2 ∈ d.referredNames := by
  have inOptions : ∀ o : Options, a ∈ o.vtype.toList ++ o.ktype.toList →
      (splitMarker a).2 ∈ o.references := by
    intro o member
    exact List.mem_map_of_mem (List.mem_append_left _ (List.mem_append_left _ member))
  rcases List.mem_append.mp h with own | inFields
  · exact List.mem_append_left _ (inOptions _ own)
  · obtain ⟨f, hf, member⟩ := List.mem_flatMap.mp inFields
    refine List.mem_append_right _ (List.mem_flatMap.mpr ⟨f, hf, ?_⟩)
    rcases List.mem_cons.mp member with rfl | own
    · exact List.mem_cons_self
    · exact List.mem_cons_of_mem _ (inOptions _ own)

theorem mem_lookedUp_of_field {d : TypeDefinition} {f : Field} (hf : f ∈ d.fields)
    {a : String} (h : a = f.typeRef ∨ a ∈ f.options.vtype.toList ++ f.options.ktype.toList) :
    a ∈ d.lookedUp :=
  List.mem_append_right _ (List.mem_flatMap.mpr ⟨f, hf, List.mem_cons.mpr h⟩)

theorem mem_markedReferences_iff {d : TypeDefinition} {a : String} :
    a ∈ d.markedReferences ↔ a ∈ d.lookedUp ∧ (splitMarker a).1 = true :=
  List.mem_filter

end TypeDefinition

section Replacing

variable (g : String → String)

def Options.replaced (o : Options) : Options :=
  { o with
    vtype := o.vtype.map (remark g)
    ktype := o.ktype.map (remark g)
    enumeration := o.enumeration.map (remark g)
    pointer := o.pointer.map (remark g) }

def Field.replaced (f : Field) : Field :=
  { f with typeRef := remark g f.typeRef, options := f.options.replaced g }

def Kind.replaced : Kind → Kind
  | choice fields => choice (fields.map (Field.replaced g))
  | array fields => array (fields.map (Field.replaced g))
  | map fields => map (fields.map (Field.replaced g))
  | record fields => record (fields.map (Field.replaced g))
  | kind => kind

def TypeDefinition.replaced (d : TypeDefinition) : TypeDefinition :=
  { d with options := d.options.replaced g, kind := d.kind.replaced g }

theorem mapM_id {α β : Type} (f : α → β) (as : List α) : as.mapM (m := Id) f = as.map f :=
  List.mapM_pure

theorem mapReference_id (reference : String) :
    mapReference (m := Id) g reference = remark g reference := rfl

theorem Options.mapReferences_id (o : Options) :
    o.mapReferences (m := Id) g = o.replaced g := by
  have one : ∀ r : Option String, r.mapM (mapReference (m := Id) g) = r.map (remark g) := by
    intro r
    cases r <;> rfl
  simp only [Options.mapReferences, one]
  rfl

theorem Field.mapReferences_id (f : Field) : f.mapReferences (m := Id) g = f.replaced g := by
  simp only [Field.mapReferences, Options.mapReferences_id, mapReference_id]
  rfl

theorem TypeDefinition.mapReferences_id (d : TypeDefinition) :
    d.mapReferences (m := Id) g = d.replaced g := by
  have fields : ∀ fs : List Field, fs.mapM (Field.mapReferences (m := Id) g) =
      fs.map (Field.replaced g) := by
    intro fs
    rw [mapM_id]
    exact List.map_congr_left fun f _ => f.mapReferences_id g
  have kind : d.kind.mapFields (Field.mapReferences (m := Id) g) = d.kind.replaced g := by
    cases d.kind <;> simp only [Kind.mapFields, fields] <;> rfl
  simp only [TypeDefinition.mapReferences, Options.mapReferences_id, kind]
  rfl

theorem TypeDefinition.refilled_map (d : TypeDefinition) :
    d.refilled (d.referredNames.map g) = d.replaced g := by
  have all := d.mapReferences_eq (m := Id) g
  rw [mapM_id, d.mapReferences_id g] at all
  exact all.symm

theorem TypeDefinition.replaced_congr {d : TypeDefinition} {g h : String → String}
    (same : ∀ x ∈ d.referredNames, g x = h x) : d.replaced g = d.replaced h := by
  rw [← refilled_map, ← refilled_map, List.map_congr_left same]

variable {g}

def Options.given (o : Options) : List String :=
  o.vtype.toList ++ o.ktype.toList ++ o.enumeration.toList ++ o.pointer.toList

theorem Options.given_replaced (o : Options) :
    (o.replaced g).given = o.given.map (remark g) := by
  have one : ∀ r : Option String, (r.map (remark g)).toList = r.toList.map (remark g) := by
    intro r
    cases r <;> rfl
  simp only [given, replaced, one, List.map_append]

theorem Options.references_eq (o : Options) :
    o.references = o.given.map fun r => (splitMarker r).2 := rfl

theorem Options.references_replaced {o : Options}
    (kept : ∀ x ∈ o.references, Unmarked (g x) ∨ g x = x) :
    (o.replaced g).references = o.references.map g := by
  rw [references_eq, references_eq, given_replaced, List.map_map, List.map_map]
  apply List.map_congr_left
  intro reference member
  simp [splitMarker_remark (kept _ (List.mem_map_of_mem member))]

theorem Field.referredNames_replaced {f : Field}
    (kept : ∀ x ∈ f.referredNames, Unmarked (g x) ∨ g x = x) :
    (f.replaced g).referredNames = f.referredNames.map g := by
  have own := splitMarker_remark (kept _ List.mem_cons_self)
  have options := Options.references_replaced fun x hx => kept x (List.mem_cons_of_mem _ hx)
  simp [referredNames, replaced, own, options]

theorem Kind.fields_replaced (kind : Kind) :
    (kind.replaced g).fields = kind.fields.map (Field.replaced g) := by
  cases kind <;> rfl

theorem TypeDefinition.fields_replaced (d : TypeDefinition) :
    (d.replaced g).fields = d.fields.map (Field.replaced g) :=
  d.kind.fields_replaced

theorem TypeDefinition.lookedUp_replaced (d : TypeDefinition) :
    (d.replaced g).lookedUp = d.lookedUp.map (remark g) := by
  have one : ∀ r : Option String, (r.map (remark g)).toList = r.toList.map (remark g) := by
    intro r
    cases r <;> rfl
  have inOptions : ∀ o : Options, (o.replaced g).vtype.toList ++ (o.replaced g).ktype.toList =
      (o.vtype.toList ++ o.ktype.toList).map (remark g) := by
    intro o
    rw [List.map_append, ← one, ← one]
    rfl
  rw [lookedUp, lookedUp, List.map_append, fields_replaced, List.flatMap_map, List.map_flatMap,
    ← inOptions]
  refine congrArg _ (List.flatMap_congr fun f _ => ?_)
  rw [List.map_cons, ← inOptions]
  rfl

theorem TypeDefinition.referredNames_replaced {d : TypeDefinition}
    (kept : ∀ x ∈ d.referredNames, Unmarked (g x) ∨ g x = x) :
    (d.replaced g).referredNames = d.referredNames.map g := by
  have options : (d.options.replaced g).references = d.options.references.map g :=
    Options.references_replaced fun x hx => kept x (List.mem_append_left _ hx)
  have fields : (d.replaced g).fields.flatMap Field.referredNames =
      d.fields.flatMap fun f => f.referredNames.map g := by
    rw [fields_replaced, List.flatMap_map]
    apply List.flatMap_congr
    intro f hf
    refine Field.referredNames_replaced fun x hx => kept x (List.mem_append_right _ ?_)
    exact List.mem_flatMap.mpr ⟨f, hf, hx⟩
  simp only [referredNames, fields, List.map_append, List.map_flatMap]
  rw [← options]
  rfl

theorem splitMarker_remark_or (g : String → String) (reference : String) :
    (splitMarker (remark g reference)).2 = g (splitMarker reference).2 ∨
      (splitMarker (remark g reference)).2 = (splitMarker (g (splitMarker reference).2)).2 := by
  unfold remark
  cases (splitMarker reference).1 with
  | true => exact Or.inl (by simp [splitMarker_markedReference])
  | false => exact Or.inr rfl

theorem TypeDefinition.mem_referredNames_replaced {d : TypeDefinition} {y : String}
    (h : y ∈ (d.replaced g).referredNames) :
    ∃ x ∈ d.referredNames, y = g x ∨ y = (splitMarker (g x)).2 := by
  have inOptions : ∀ o : Options, y ∈ (o.replaced g).references →
      ∃ x ∈ o.references, y = g x ∨ y = (splitMarker (g x)).2 := by
    intro o member
    rw [Options.references_eq, Options.given_replaced, List.map_map] at member
    obtain ⟨reference, listed, rfl⟩ := List.mem_map.mp member
    exact ⟨_, List.mem_map_of_mem listed, splitMarker_remark_or g reference⟩
  rcases List.mem_append.mp h with own | inFields
  · obtain ⟨x, hx, stands⟩ := inOptions d.options own
    exact ⟨x, List.mem_append_left _ hx, stands⟩
  · rw [fields_replaced, List.flatMap_map] at inFields
    obtain ⟨f, hf, member⟩ := List.mem_flatMap.mp inFields
    have reached : ∀ x ∈ f.referredNames, x ∈ d.referredNames := fun x hx =>
      List.mem_append_right _ (List.mem_flatMap.mpr ⟨f, hf, hx⟩)
    rcases List.mem_cons.mp member with rfl | later
    · exact ⟨_, reached _ List.mem_cons_self, splitMarker_remark_or g f.typeRef⟩
    · obtain ⟨x, hx, stands⟩ := inOptions f.options later
      exact ⟨x, reached x (List.mem_cons_of_mem _ hx), stands⟩

theorem Options.replaced_of_fixed {o : Options} (fixed : ∀ x ∈ o.references, g x = x) :
    o.replaced g = o := by
  have one : ∀ r : Option String, (∀ x ∈ r, g (splitMarker x).2 = (splitMarker x).2) →
      r.map (remark g) = r := by
    intro r h
    cases r with
    | none => rfl
    | some x => simp [remark_of_fixed (h x rfl)]
  have each : ∀ r : Option String, (∀ x ∈ r, (splitMarker x).2 ∈ o.references) →
      r.map (remark g) = r := fun r h => one r fun x hx => fixed _ (h x hx)
  unfold replaced
  rw [each o.vtype, each o.ktype, each o.enumeration, each o.pointer]
  all_goals
    intro x hx
    simp only [Option.mem_def] at hx
    simp [references, hx]

theorem Field.replaced_of_fixed {f : Field} (fixed : ∀ x ∈ f.referredNames, g x = x) :
    f.replaced g = f := by
  have options := Options.replaced_of_fixed fun x hx => fixed x (List.mem_cons_of_mem _ hx)
  simp [replaced, remark_of_fixed (fixed _ List.mem_cons_self), options]

theorem TypeDefinition.replaced_of_fixed {d : TypeDefinition}
    (fixed : ∀ x ∈ d.referredNames, g x = x) : d.replaced g = d := by
  have options : d.options.replaced g = d.options :=
    Options.replaced_of_fixed fun x hx => fixed x (List.mem_append_left _ hx)
  have fields : d.fields.map (Field.replaced g) = d.fields := by
    refine (List.map_congr_left fun f hf => ?_).trans (List.map_id _)
    refine Field.replaced_of_fixed fun x hx => fixed x (List.mem_append_right _ ?_)
    exact List.mem_flatMap.mpr ⟨f, hf, hx⟩
  have kind : d.kind.replaced g = d.kind := by
    cases kind : d.kind <;>
      simp_all [Kind.replaced, TypeDefinition.fields, Kind.fields]
  simp [replaced, options, kind]

/-- `references` leaves out only names behind the markers of field types. -/
theorem TypeDefinition.mem_references_of_mem {d : TypeDefinition} {x : String}
    (h : x ∈ d.referredNames) :
    x ∈ d.references ∨ ∃ f ∈ d.fields, f.typeRef = markedReference x := by
  rcases List.mem_append.mp h with inOptions | inFields
  · exact Or.inl (List.mem_append_left _ inOptions)
  · obtain ⟨f, hf, hx⟩ := List.mem_flatMap.mp inFields
    have own : ∀ y ∈ f.references, y ∈ d.references := fun y hy =>
      List.mem_append_right _ (List.mem_flatMap.mpr ⟨f, hf, hy⟩)
    rcases List.mem_cons.mp hx with rfl | later
    · cases marked : (splitMarker f.typeRef).1 with
      | true => exact Or.inr ⟨f, hf, splitMarker_of_marked marked⟩
      | false =>
        rw [splitMarker_of_unmarked marked]
        exact Or.inl (own _ List.mem_cons_self)
    · exact Or.inl (own x (List.mem_cons_of_mem _ later))

end Replacing

end Jadn
