import Jadn.Proofs.Expansion.Depth

/-!
Raising the limits of a schema.

A greater depth means more levels to check and more levels to expand, so the value that is checked
is another one. Both runs can be followed together: each step of the walk through the deeper form
corresponds to one through the other form, and every node fits in both, apart from equal elements.
So all that can be found with raised limits in an accepted instance are elements that are the same
once they are expanded further. What is expanded further is nothing that was checked: it is a member
that denotes a field without being spelled as the key of that field is printed.
-/

set_option autoImplicit false

namespace Jadn

/-- Limits that differ in nothing but a greater depth and larger collections. -/
structure Limits.Raised (l l' : Limits) : Prop where
  depth : l.maxDepth ≤ l'.maxDepth
  collectionSize : l.maxCollectionSize ≤ l'.maxCollectionSize
  types : l'.maxTypes = l.maxTypes
  packages : l'.maxPackages = l.maxPackages

namespace Validation

open Expansion

/-- The collections that the walk from a node meets have distinct elements, if they are to. -/
def Apart (s : Schema) (node : TypeDefinition × Json) : Prop :=
  ∀ e ws, Relation.ReflTransGen (Step s) node (e, .arr ws) → e.baseType = .arrayOf →
    e.options.isUnique = true → repeated? [] ws = none

/-- The maps and records that go by ids have their members under the keys that are printed for the
fields, wherever the walk from a node meets them. -/
def Printed (s : Schema) (node : TypeDefinition × Json) : Prop :=
  ∀ e ms, Relation.ReflTransGen (Step s) node (e, .obj ms) →
    (e.baseType = .map ∨ e.baseType = .record) → e.options.byId = true → e.PrintsKeys ms

section Walk

variable {s r : Schema} {node node' : TypeDefinition × Json}

theorem Apart.of_step (apart : Apart s node) (step : Step s node node') : Apart s node' :=
  fun e ws walked => apart e ws (.head step walked)

theorem Printed.of_step (printed : Printed s node) (step : Step s node node') : Printed s node' :=
  fun e ms walked => printed e ms (.head step walked)

theorem Step.congr (lookup : s.lookup? = r.lookup?) (fieldType : s.fieldType? = r.fieldType?)
    (step : Step s node node') : Step r node node' := by
  cases step with
  | element kind type member => exact .element kind (lookup ▸ type) member
  | key kind type read member => exact .key kind (lookup ▸ type) read member
  | entry kind keys type read member =>
    exact .entry kind (lookup ▸ keys) (lookup ▸ type) read member
  | single filled type once => exact .single filled (fieldType ▸ type) once
  | occurrence filled type repeated member =>
    exact .occurrence filled (fieldType ▸ type) repeated member

theorem step_eq (lookup : s.lookup? = r.lookup?) (fieldType : s.fieldType? = r.fieldType?) :
    Step s = Step r := by
  funext node node'
  exact propext ⟨.congr lookup fieldType, .congr lookup.symm fieldType.symm⟩

theorem apart_of_accepted {node : TypeDefinition × Json} (accepted : Accepted s node) :
    Apart s node := by
  intro e ws walked kind unique
  obtain ⟨levels, checked⟩ := accepted.walk walked
  rw [checkLevels, checkLevel_of_arrayOf kind] at checked
  obtain ⟨t, type, _, ⟨⟩, admits⟩ := checkArrayOf_eq_ok_iff.mp checked
  exact admits.distinct unique

end Walk

section Checks

variable {s : Schema} {l : Limits} (larger : s.limits.maxCollectionSize ≤ l.maxCollectionSize)
include larger

theorem checkCollection_raised {d : TypeDefinition} {count : Nat}
    (accepted : checkCollection s d count = .ok ()) :
    checkCollection { s with limits := l } d count = .ok () :=
  checkCollection_eq_ok_iff.mpr ((checkCollection_eq_ok_iff.mp accepted).trans larger)

theorem checkLevel_raised {inner : Checker} {d : TypeDefinition} {w : Json}
    (accepted : checkLevel s inner d w = .ok ()) :
    checkLevel { s with limits := l } inner d w = .ok () := by
  unfold checkLevel at accepted ⊢
  cases kind : d.kind with
  | arrayOf =>
    simp only [kind, checkArrayOf, Except.bind_eq_ok_iff] at accepted ⊢
    obtain ⟨t, type, rest⟩ := accepted
    refine ⟨t, type, ?_⟩
    cases values : w.arr? with
    | none =>
      rw [values] at rest
      cases rest
    | some vs =>
      simp only [values, Except.bind_eq_ok_iff] at rest ⊢
      obtain ⟨⟨⟩, limited, rest⟩ := rest
      exact ⟨(), checkCollection_raised larger limited, rest⟩
  | map fields | record fields =>
    simp only [kind, checkMap, Except.bind_eq_ok_iff] at accepted ⊢
    obtain ⟨ms, read, ⟨⟩, limited, rest⟩ := accepted
    exact ⟨ms, read, (), checkCollection_raised larger limited, rest⟩
  | mapOf =>
    simp only [kind, checkMapOf, Except.bind_eq_ok_iff] at accepted ⊢
    obtain ⟨k, keys, t, type, es, read, ⟨⟩, limited, rest⟩ := accepted
    exact ⟨k, keys, t, type, es, read, (), checkCollection_raised larger limited, rest⟩
  | _ =>
    rw [kind] at accepted
    exact accepted

theorem checkLevels_raised {n m : Nat} (deeper : n ≤ m) {d : TypeDefinition} {w : Json}
    (accepted : checkLevels s n d w = .ok ()) :
    checkLevels { s with limits := l } m d w = .ok () := by
  induction n generalizing m d w with
  | zero => cases accepted
  | succ n ih =>
    obtain ⟨m, rfl⟩ := Nat.exists_eq_add_one_of_ne_zero (Nat.ne_zero_of_lt deeper)
    obtain ⟨fits, further⟩ := checkLevel_eq_ok_iff.mp accepted
    apply checkLevel_raised larger
    apply checkLevel_eq_ok_iff.mpr
    refine ⟨fits, fun t v step => ?_⟩
    exact ih (Nat.le_of_succ_le_succ deeper) (further t v step)

end Checks

section Runs

variable {s : Schema} (built : s.Built)
include built

/-- What is accepted does not change when it is expanded further, if the check leaves no member out:
where fields go by ids, members are spelled as the keys of their fields are printed. -/
theorem expandLevels_eq_of_printed {n m : Nat} (deeper : n ≤ m) {d : TypeDefinition}
    (denoted : s.Denotes d) {v : Json}
    (accepted : checkLevels s n d (expandLevels s n d v) = .ok ())
    (printed : Printed s (d, expandLevels s n d v)) :
    expandLevels s m d v = expandLevels s n d v := by
  induction n generalizing m d v with
  | zero => cases accepted
  | succ n ih =>
    obtain ⟨m, rfl⟩ := Nat.exists_eq_add_one_of_ne_zero (Nat.ne_zero_of_lt deeper)
    have formed := built.wellFormed_of_denotes denoted
    obtain ⟨fits, further⟩ := checkLevel_eq_ok_iff.mp accepted
    apply (level_expandLevel formed v).eq_of_steps (settled_expandLevels built n)
      (settled_expandLevels built m) formed fits
    · intro ms made
      apply printed d ms
      rw [← made]
      exact .refl
    · intro t x step
      exact ih (Nat.le_of_succ_le_succ deeper) (denotes_of_step step) (further t _ step)
        (printed.of_step step)

/-- Nodes that two runs reach together: the same value, or one that both expand, the second one
further than the first, which accepts it. -/
inductive Twin (s : Schema) : TypeDefinition × Json → TypeDefinition × Json → Prop where
  | same (node : TypeDefinition × Json) : Twin s node node
  | deeper {n m : Nat} {d : TypeDefinition} {v : Json} (deeper : n ≤ m) (denoted : s.Denotes d)
      (accepted : checkLevels s n d (expandLevels s n d v) = .ok ()) :
      Twin s (d, expandLevels s n d v) (d, expandLevels s m d v)

omit built in
theorem Twin.type_eq {a a' : TypeDefinition × Json} (twin : Twin s a a') : a'.1 = a.1 := by
  cases twin <;> rfl

theorem Twin.step {a a' b' : TypeDefinition × Json} (twin : Twin s a a') (step : Step s a' b') :
    ∃ b, Step s a b ∧ Twin s b b' := by
  cases twin with
  | same => exact ⟨b', step, .same b'⟩
  | @deeper n m d v deeper denoted accepted =>
    cases n with
    | zero => cases accepted
    | succ n =>
      obtain ⟨m, rfl⟩ := Nat.exists_eq_add_one_of_ne_zero (Nat.ne_zero_of_lt deeper)
      have formed := built.wellFormed_of_denotes denoted
      obtain ⟨t, v'⟩ := b'
      obtain ⟨u, other, rfl | ⟨x, rfl, rfl⟩⟩ := (level_expandLevel formed v).step
        (settled_expandLevels built n) (settled_expandLevels built m) formed step
      · exact ⟨_, other, .same _⟩
      · exact ⟨_, other, .deeper (Nat.le_of_succ_le_succ deeper) (denotes_of_step other)
          (accepted_of_step accepted other)⟩

theorem Twin.walk {a a' b' : TypeDefinition × Json} (twin : Twin s a a')
    (walked : Relation.ReflTransGen (Step s) a' b') :
    ∃ b, Relation.ReflTransGen (Step s) a b ∧ Twin s b b' := by
  induction walked with
  | refl => exact ⟨a, .refl, twin⟩
  | tail _ step ih =>
    obtain ⟨b, walked, here⟩ := ih
    obtain ⟨c, next, there⟩ := here.step built step
    exact ⟨c, walked.tail next, there⟩

theorem Twin.eq_of_printed {a a' : TypeDefinition × Json} (twin : Twin s a a')
    (printed : Printed s a) : a' = a := by
  cases twin with
  | same => rfl
  | deeper deeper denoted accepted =>
    rw [expandLevels_eq_of_printed built deeper denoted accepted printed]

/-- The deeper run meets no equal elements that are to be distinct, if below such collections members
are spelled as their keys are printed. -/
theorem Twin.apart {a a' : TypeDefinition × Json} (twin : Twin s a a') (accepted : Accepted s a)
    (printed : ∀ e w, Relation.ReflTransGen (Step s) a (e, w) → e.baseType = .arrayOf →
      e.options.isUnique = true → Printed s (e, w)) : Apart s a' := by
  intro e ws walked kind unique
  obtain ⟨⟨e', w⟩, walked', here⟩ := twin.walk built walked
  obtain rfl : e = e' := here.type_eq
  obtain ⟨⟩ := here.eq_of_printed built (printed e w walked' kind unique)
  exact apart_of_accepted accepted e ws walked' kind unique

/-- What is accepted is accepted under raised limits, if expanding it further makes no elements equal
that are to be distinct. -/
theorem checkLevels_of_apart {l : Limits}
    (larger : s.limits.maxCollectionSize ≤ l.maxCollectionSize) {n m : Nat} (deeper : n ≤ m)
    {d : TypeDefinition} (denoted : s.Denotes d) {v : Json}
    (accepted : checkLevels s n d (expandLevels s n d v) = .ok ())
    (apart : Apart s (d, expandLevels s m d v)) :
    checkLevels { s with limits := l } m d (expandLevels s m d v) = .ok () := by
  -- The first run accepts at every level, and each step of the second one is matched by a step of it.
  induction n generalizing m d v with
  | zero => cases accepted
  | succ n ih =>
    obtain ⟨m, rfl⟩ := Nat.exists_eq_add_one_of_ne_zero (Nat.ne_zero_of_lt deeper)
    have formed := built.wellFormed_of_denotes denoted
    have settled := settled_expandLevels built n
    have settled' := settled_expandLevels built m
    have level := level_expandLevel (s := s) formed v
    obtain ⟨fits, further⟩ := checkLevel_eq_ok_iff.mp accepted
    apply checkLevel_raised larger
    apply checkLevel_eq_ok_iff.mpr
    refine ⟨?_, fun t v' step => ?_⟩
    · apply level.fits settled settled' formed fits
      intro ws made kind unique
      refine apart d ws ?_ kind unique
      rw [← made]
      exact .refl
    · obtain ⟨u, other, rfl | ⟨x, rfl, rfl⟩⟩ := level.step settled settled' formed step
      · exact checkLevels_raised larger (Nat.le_of_succ_le_succ deeper) (further t u other)
      · exact ih (Nat.le_of_succ_le_succ deeper) (denotes_of_step step) (further t _ other)
          (apart.of_step step)

end Runs

end Validation

namespace Schema

open Expansion Validation

section WithLimits

variable {s : Schema} {l : Limits}

theorem expand_withLimits (d : TypeDefinition) (v : Json) :
    d.expand { s with limits := l } v = expandLevels s (l.maxDepth + 1) d v :=
  congrFun (congrFun (expandLevels_congr (s := { s with limits := l }) (r := s) rfl rfl _) d) v

theorem apart_withLimits (node : TypeDefinition × Json) :
    Apart { s with limits := l } node ↔ Apart s node := by
  rw [Apart, step_eq (s := { s with limits := l }) (r := s) rfl rfl, Apart]

theorem isValid_withLimits_iff {name : String} {d : TypeDefinition}
    (found : s.lookup? name = some d) {v : Json} :
    isValid { s with limits := l } name v = true ↔
      checkLevels { s with limits := l } (l.maxDepth + 1) d (expandLevels s (l.maxDepth + 1) d v) =
        .ok () := by
  have found' : lookup? { s with limits := l } name = some d := found
  rw [isValid_iff found', expand_withLimits]
  rfl

/-- An accepted instance is accepted under greater limits just if the elements that are to be
distinct stay so. -/
theorem Built.isValid_iff_apart (built : s.Built) (deeper : s.limits.maxDepth ≤ l.maxDepth)
    (larger : s.limits.maxCollectionSize ≤ l.maxCollectionSize) {name : String} {d : TypeDefinition}
    (found : s.lookup? name = some d) {v : Json} (accepted : s.isValid name v = true) :
    isValid { s with limits := l } name v = true ↔
      Apart s (d, expandLevels s (l.maxDepth + 1) d v) := by
  rw [isValid_withLimits_iff found]
  constructor
  · exact fun checked => (apart_withLimits _).mp (apart_of_accepted ⟨_, checked⟩)
  · exact checkLevels_of_apart built larger (Nat.succ_le_succ deeper) (.inl ⟨name, found⟩)
      ((isValid_iff found).mp accepted)

end WithLimits

/-- Under raised limits, an accepted instance can be rejected for nothing but elements that are the
same once they are expanded further and that are to be distinct. It is accepted if the members of
maps and records that go by ids are spelled as their keys are printed, wherever the walk through its
verbose form meets them below a collection of distinct elements. -/
theorem isValid_raised {info : Info} {types : List TypeDefinition} {l l' : Limits} {s : Schema}
    {order : HashOrder} (formed : ∀ d ∈ types, d.WellFormed)
    (made : build info types l order = .ok s) (raised : l.Raised l') :
    ∃ r, (∀ order', build info types l' order' = .ok r) ∧ ∀ name v, s.isValid name v = true →
      (r.isValid name v = true ↔
        ∀ d, r.lookup? name = some d → Apart r (d, d.expand r v)) ∧
      ((∀ d, s.lookup? name = some d → ∀ e w,
          Relation.ReflTransGen (Step s) (d, d.expand s v) (e, w) → e.baseType = .arrayOf →
            e.options.isUnique = true → Printed s (e, w)) → r.isValid name v = true) := by
  have built := Built.of_build formed made
  have tables := tables_of_build made
  obtain rfl := tables.limits_eq
  refine ⟨{ s with limits := l' }, fun _ => build_of_tables { tables with
    limits_eq := rfl, count := raised.types ▸ tables.count }, fun name v accepted => ?_⟩
  cases found : s.lookup? name with
  | none =>
    rw [isValid, validate, found] at accepted
    cases accepted
  | some d =>
    have same : lookup? { s with limits := l' } name = some d := found
    have apart_iff := built.isValid_iff_apart raised.depth raised.collectionSize found accepted
    constructor
    · rw [apart_iff, same]
      simp only [Option.some.injEq, forall_eq', apart_withLimits, expand_withLimits]
    · intro printed
      have checked := (isValid_iff found).mp accepted
      have twin : Twin s (d, d.expand s v) (d, expandLevels s (l'.maxDepth + 1) d v) :=
        .deeper (Nat.succ_le_succ raised.depth) (.inl ⟨name, found⟩) checked
      exact apart_iff.mpr (twin.apart built ⟨_, checked⟩ (printed d rfl))

def metal : TypeDefinition where
  name := "Metal"
  options := {}
  description := ""
  kind := .enumerated [⟨1, "gold", ""⟩, ⟨2, "silver", ""⟩]

def coin : TypeDefinition where
  name := "Coin"
  options := { byId := true }
  description := ""
  kind := .map [{ id := 1, name := "metal", typeRef := "Metal",
                  options := { minc := some 0 }, description := "" }]

def purse : TypeDefinition where
  name := "Purse"
  options := { vtype := some "Coin", unique := true }
  description := ""
  kind := .arrayOf

def purses (limits : Limits) : Schema where
  info := {}
  types := [metal, coin, purse]
  limits := limits
  extensions := []
  fieldTypes := []
  patterns := []

theorem purse_wellFormed : ∀ d ∈ [metal, coin, purse], d.WellFormed := by decide

def twoCoins : Json := .arr [.obj [("1", .str "gold")], .obj [("1", .str "silver")]]

theorem metal_of_step {l : Limits} {members : Dict Json} {node : TypeDefinition × Json}
    (step : Step (purses l) (coin, .obj members) node) : node.1 = metal := by
  have typed : ∀ {f t v}, Fills coin (.obj members) f v →
      (purses l).fieldType? coin.name f = some t → t = metal := by
    intro f t v filled type
    cases filled with
    | alternative kind => cases kind
    | place kind => cases kind
    | member _ _ listed =>
      obtain rfl := List.mem_singleton.mp listed
      exact (Option.some.inj type).symm
  cases step with
  | key kind | entry kind => cases kind
  | single filled type => exact typed filled type
  | occurrence filled type => exact typed filled type

theorem walk_twoCoins {l : Limits} {node : TypeDefinition × Json}
    (walked : Relation.ReflTransGen (Step (purses l)) (purse, twoCoins) node) :
    node = (purse, twoCoins) ∨ (node.1 = coin ∧ ∃ v, node.2 = .obj [("1", v)]) ∨
      node.1 = metal := by
  induction walked with
  | refl => exact .inl rfl
  | @tail node node' _ step ih =>
    obtain ⟨d, w⟩ := node
    rcases ih with ⟨⟨⟩⟩ | ⟨rfl, v, rfl⟩ | rfl
    · generalize same : twoCoins = w at step
      cases step with
      | element _ type member =>
        cases same
        obtain rfl : coin = _ := Option.some.inj type
        simp only [List.mem_cons, List.not_mem_nil, or_false] at member
        rcases member with rfl | rfl
        · exact .inr (.inl ⟨rfl, _, rfl⟩)
        · exact .inr (.inl ⟨rfl, _, rfl⟩)
      | key kind | entry kind => cases kind
      | single filled | occurrence filled => exact absurd (kind_of_fills filled) (by decide)
    · exact .inr (.inr (metal_of_step step))
    · cases step with
      | element kind | key kind | entry kind => cases kind
      | single filled | occurrence filled => exact absurd (kind_of_fills filled) (by decide)

/-- Two coins that are given by the ids of their metals are accepted at any depth that suffices. -/
theorem isValid_raised_purse :
    ∃ r, (∀ order, build {} [metal, coin, purse] { maxDepth := 5 } order = .ok r) ∧
      (purses { maxDepth := 2 }).isValid "Purse"
        (.arr [.obj [("1", .int 1)], .obj [("1", .int 2)]]) = true ∧
      r.isValid "Purse" (.arr [.obj [("1", .int 1)], .obj [("1", .int 2)]]) = true := by
  have made : build {} [metal, coin, purse] { maxDepth := 2 } .entered =
      .ok (purses { maxDepth := 2 }) := rfl
  have raised : Limits.Raised { maxDepth := 2 } { maxDepth := 5 } := ⟨by decide, by decide, rfl, rfl⟩
  obtain ⟨r, made', outcomes⟩ := isValid_raised purse_wellFormed made raised
  have accepted : (purses { maxDepth := 2 }).isValid "Purse"
      (.arr [.obj [("1", .int 1)], .obj [("1", .int 2)]]) = true := rfl
  refine ⟨r, made', accepted, (outcomes _ _ accepted).2 ?_⟩
  intro d found e w walked kind unique e' members further structured byId
  obtain rfl : purse = d := Option.some.inj found
  rcases walk_twoCoins (walked.trans further) with ⟨⟨⟩⟩ | ⟨rfl, v, ⟨⟩⟩ | rfl
  · intro key v' f member _ denoted
    obtain ⟨rfl, rfl⟩ : key = "1" ∧ v' = v := by simpa using member
    obtain rfl : coin.fields.head! = f := Option.some.inj denoted
    exact ⟨by simp [coin, TypeDefinition.fields, Kind.fields], rfl⟩
  · rcases structured with kind | kind
    all_goals cases kind

/-- A member that is not spelled as the key of its field is printed is no part of the walk. -/
example : (purses { maxDepth := 1 }).isValid "Purse"
      (.arr [.obj [("+1", .int 1)], .obj [("+1", .str "gold")]]) = true ∧
    (purses { maxDepth := 2 }).isValid "Purse"
      (.arr [.obj [("+1", .int 1)], .obj [("+1", .str "gold")]]) = false := ⟨rfl, rfl⟩

end Schema

end Jadn
