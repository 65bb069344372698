import Jadn.Proofs.Json.Equality
import Jadn.Proofs.Validation.Members

/-!
What fields and collections ask of an instance.

Each check runs in order and stops at the first fault. That it finds none is said here without
the order: what there has to be, what is asked of every part, and within which bounds the
number of parts has to be.
-/

set_option autoImplicit false

namespace Jadn.Validation

variable {s : Schema} {inner : Checker} {d : TypeDefinition}

theorem forM_zipIdx_under_eq_ok_iff {f : Json → Outcome} {values : List Json} :
    (values.zipIdx.forM fun (v, i) => under (toString i) (f v)) = .ok () ↔
      ∀ v ∈ values, f v = .ok () := by
  rw [Except.forM_eq_ok_iff]
  simp only [under_eq_ok_iff]
  constructor
  · intro each v hv
    obtain ⟨i, hi⟩ := List.mem_iff_getElem?.mp hv
    exact each (v, i) (List.mem_zipIdx_iff_getElem?.mpr hi)
  · rintro each ⟨v, i⟩ member
    exact each v (List.mem_of_getElem? (List.mem_zipIdx_iff_getElem?.mp member))

theorem partType_eq_ok_iff {role : String} {reference : Option String} {t : TypeDefinition} :
    partType s d role reference = .ok t ↔ reference.bind s.lookup? = some t := by
  unfold partType
  cases reference with
  | none => simp
  | some name => cases found : s.lookup? name <;> simp [found]

/-- Members under the same keys that fare as well are admitted as well. -/
theorem Admits.of_related {check check' : Field → Json → Outcome} {speaks : String → Field → Prop}
    {ms ns : Dict Json} (admits : Admits s check d speaks ms)
    (related : Multiset.Rel (fun p (q : String × Json) => p.1 = q.1 ∧ p.2.isNull = q.2.isNull ∧
        ∀ f, speaks p.1 f → p.2.isNull = false → check f p.2 = .ok () → check' f q.2 = .ok ())
      (ms : Multiset (String × Json)) ns) : Admits s check' d speaks ns := by
  have keys := Dict.perm_keys related fun _ _ same => same.1
  have length : ms.length = ns.length := by
    simpa [Dict.keys] using keys.length_eq
  refine { apart := ?_, declared := fun key hkey => admits.declared key (keys.mem_iff.mpr hkey),
           given := ?_, checked := ?_, atLeast := length ▸ admits.atLeast,
           atMost := length ▸ admits.atMost, limited := length ▸ admits.limited }
  · exact (keys.pairwise_iff fun apart f own theirs => apart f theirs own).mp admits.apart
  · intro f hf required
    obtain ⟨key, v, member, some, speaking⟩ := admits.given f hf required
    obtain ⟨⟨_, w⟩, hw, rfl, null, -⟩ := Multiset.exists_mem_of_rel_of_mem related member
    exact ⟨key, w, hw, null ▸ some, speaking⟩
  · intro key w f member some speaking
    obtain ⟨⟨_, v⟩, hv, rfl, null, fares⟩ := exists_mem_left related member
    exact fares f speaking (null ▸ some) (admits.checked _ v f hv (null ▸ some) speaking)

structure Repeats (s : Schema) (check : Json → Outcome) (f : Field) (values : List Json) :
    Prop where
  atLeast : (max (f.minc false) 1).toNat ≤ values.length
  atMost : values.length ≤ f.maxc?.getD s.config.elementLimit
  checked : ∀ v ∈ values, check v = .ok ()

theorem checkField_eq_ok_iff {f : Field} {v : Json} :
    checkField s inner d f v = .ok () ↔ ∃ t, s.fieldType? d.name f = some t ∧
      (f.isRepeated = false ∧ inner t v = .ok () ∨
        f.isRepeated = true ∧ ∃ values, v = .arr values ∧ Repeats s (inner t) f values) := by
  unfold checkField
  cases s.fieldType? d.name f with
  | none => simp
  | some t =>
    cases f.isRepeated with
    | false => simp
    | true =>
      cases v with
      | arr values =>
        simp only [Json.arr?, Bool.not_true, Bool.false_eq_true, if_false, Option.some.injEq,
          exists_eq_left', reduceCtorEq, false_and, false_or, true_and, Json.arr.injEq]
        by_cases bounds : (max (f.minc false) 1).toNat ≤ values.length ∧
            values.length ≤ f.maxc?.getD s.config.elementLimit
        · rw [if_neg (by simp only [Bool.or_eq_true, decide_eq_true_eq]; omega),
            forM_zipIdx_under_eq_ok_iff]
          exact ⟨fun each => ⟨bounds.1, bounds.2, each⟩, fun repeats => repeats.checked⟩
        · rw [if_pos (by simp only [Bool.or_eq_true, decide_eq_true_eq]; omega)]
          constructor
          · intro h
            cases h
          · exact fun repeats => absurd ⟨repeats.atLeast, repeats.atMost⟩ bounds
      | _ => simp [Json.arr?]

structure AdmitsPlaces (s : Schema) (inner : Checker) (d : TypeDefinition) (fields : List Field)
    (values : List Json) : Prop where
  fits : values.length ≤ fields.length
  given : ∀ (i : Nat) (f : Field), fields[i]? = some f → f.isRequired = true →
    (present? values[i]?).isSome
  checked : ∀ p ∈ fields.zip values, p.2.isNull = false →
    checkField s inner d p.1 p.2 = .ok ()
  atLeast : (d.options.minv.map fun n => n.toInt.toNat).getD (lastRequired fields) ≤ values.length
  atMost : values.length ≤ (positive? d.options.maxv).getD fields.length

theorem checkRequired_eq_ok_iff {fields : List Field} {values : List Json} :
    ((fields.zipIdx).forM fun (f, i) => if f.isRequired && (present? values[i]?).isNone then
      (.error (missingField d f) : Outcome) else .ok ()) = .ok () ↔
    ∀ (i : Nat) (f : Field), fields[i]? = some f → f.isRequired = true →
      (present? values[i]?).isSome := by
  rw [Except.forM_eq_ok_iff]
  constructor
  · intro each i f here needed
    have held := each (f, i) (List.mem_zipIdx_iff_getElem?.mpr here)
    cases value : present? values[i]? with
    | none => simp [needed, value] at held
    | some _ => rfl
  · rintro given ⟨f, i⟩ member
    have here := given i f (List.mem_zipIdx_iff_getElem?.mp member)
    cases needed : f.isRequired with
    | false => simp [needed]
    | true =>
      obtain ⟨v, value⟩ := Option.isSome_iff_exists.mp (here needed)
      simp [value]

theorem checkPlaces_eq_ok_iff {fields : List Field} {v : Json} :
    checkPlaces s inner d fields v = .ok () ↔
      ∃ values, v = .arr values ∧ AdmitsPlaces s inner d fields values := by
  have places : ∀ values : List Json, ((fields.zip values).forM fun p =>
      if p.2.isNull then (.ok () : Outcome)
      else under p.1.name (checkField s inner d p.1 p.2)) = .ok () ↔
        ∀ p ∈ fields.zip values, p.2.isNull = false → checkField s inner d p.1 p.2 = .ok () := by
    intro values
    rw [Except.forM_eq_ok_iff]
    refine forall_congr' fun p => forall_congr' fun _ => ?_
    cases null : p.2.isNull with
    | true => simp
    | false => simp [under_eq_ok_iff]
  unfold checkPlaces
  cases v with
  | arr values =>
    simp only [Json.arr?, Json.arr.injEq, exists_eq_left']
    by_cases fits : values.length ≤ fields.length
    · rw [if_neg (Nat.not_lt.mpr fits)]
      simp only [Except.bind_eq_ok_iff, checkBounds_eq_ok_iff]
      constructor
      · rintro ⟨⟨⟩, given, ⟨⟩, checked, atLeast, atMost⟩
        exact ⟨fits, checkRequired_eq_ok_iff.mp given, (places values).mp checked, atLeast, atMost⟩
      · exact fun admits => ⟨(), checkRequired_eq_ok_iff.mpr admits.given, (),
          (places values).mpr admits.checked, admits.atLeast, admits.atMost⟩
    · rw [if_pos (Nat.lt_of_not_le fits)]
      constructor
      · intro h
        cases h
      · exact fun admits => absurd admits.fits fits
  | _ => simp [Json.arr?]

theorem checkArray_eq_ok_iff {fields : List Field} {v : Json} :
    checkArray s inner d fields v = .ok () ↔
      ∃ values, placesOf d v = .ok (.arr values) ∧ AdmitsPlaces s inner d fields values := by
  simp only [checkArray, Except.bind_eq_ok_iff, checkPlaces_eq_ok_iff]
  constructor
  · rintro ⟨_, parts, values, rfl, admits⟩
    exact ⟨values, parts, admits⟩
  · rintro ⟨values, parts, admits⟩
    exact ⟨_, parts, values, rfl, admits⟩

/-- So many parts are neither too few nor too many for a type, nor too many for the schema. -/
structure CountFits (s : Schema) (d : TypeDefinition) (count : Nat) : Prop where
  limited : count ≤ s.limits.maxCollectionSize
  atLeast : natural d.options.minv ≤ count
  atMost : count ≤ (positive? d.options.maxv).getD s.config.elementLimit

/-- What a collection of elements asks of them. -/
structure AdmitsElements (s : Schema) (check : Json → Outcome) (d : TypeDefinition)
    (values : List Json) : Prop where
  limited : values.length ≤ s.limits.maxCollectionSize
  checked : ∀ v ∈ values, check v = .ok ()
  distinct : d.options.isUnique = true → repeated? [] values = none
  atLeast : natural d.options.minv ≤ values.length
  atMost : values.length ≤ (positive? d.options.maxv).getD s.config.elementLimit

theorem checkArrayOf_eq_ok_iff {v : Json} :
    checkArrayOf s inner d v = .ok () ↔ ∃ t, d.options.vtype.bind s.lookup? = some t ∧
      ∃ values, v = .arr values ∧ AdmitsElements s (inner t) d values := by
  unfold checkArrayOf
  simp only [Except.bind_eq_ok_iff, partType_eq_ok_iff]
  refine exists_congr fun t => and_congr_right fun _ => ?_
  cases v with
  | arr values =>
    simp only [Json.arr?, Except.bind_eq_ok_iff, Json.arr.injEq]
    constructor
    · rintro ⟨⟨⟩, limited, ⟨⟩, checked, h⟩
      have parts : (d.options.isUnique = true → repeated? [] values = none) ∧
          checkSize s d values.length = .ok () := by
        cases unique : d.options.isUnique with
        | false =>
          rw [unique] at h
          exact ⟨by simp, h⟩
        | true =>
          cases double : repeated? [] values with
          | none => simpa [unique, double] using h
          | some v => simp [unique, double, Except.bind_eq_ok_iff] at h
      obtain ⟨atLeast, atMost⟩ := checkBounds_eq_ok_iff.mp parts.2
      exact ⟨values, rfl, checkCollection_eq_ok_iff.mp limited,
        forM_zipIdx_under_eq_ok_iff.mp checked, parts.1, atLeast, atMost⟩
    · rintro ⟨_, rfl, admits⟩
      refine ⟨(), checkCollection_eq_ok_iff.mpr admits.limited, (),
        forM_zipIdx_under_eq_ok_iff.mpr admits.checked, ?_⟩
      have size : checkSize s d values.length = .ok () :=
        checkBounds_eq_ok_iff.mpr ⟨admits.atLeast, admits.atMost⟩
      cases unique : d.options.isUnique with
      | false => simpa using size
      | true => simpa [admits.distinct unique] using size
  | _ => simp [Json.arr?]

structure AdmitsEntries (s : Schema) (checkKey check : Json → Outcome) (d : TypeDefinition)
    (entries : List (Json × Json)) : Prop where
  limited : entries.length ≤ s.limits.maxCollectionSize
  checked : ∀ e ∈ entries, checkKey e.1 = .ok () ∧ check e.2 = .ok ()
  atLeast : natural d.options.minv ≤ entries.length
  atMost : entries.length ≤ (positive? d.options.maxv).getD s.config.elementLimit

theorem AdmitsEntries.of_related {checkKey check : Json → Outcome} {es fs : List (Json × Json)}
    (admits : AdmitsEntries s checkKey check d es)
    (related : Multiset.Rel (fun e (e' : Json × Json) =>
        checkKey e.1 = .ok () ∧ check e.2 = .ok () → checkKey e'.1 = .ok () ∧ check e'.2 = .ok ())
      (es : Multiset (Json × Json)) fs) :
    AdmitsEntries s checkKey check d fs := by
  have length : es.length = fs.length := by
    simpa using Multiset.card_eq_card_of_rel related
  refine ⟨length ▸ admits.limited, fun e' he' => ?_, length ▸ admits.atLeast,
    length ▸ admits.atMost⟩
  obtain ⟨e, he, fares⟩ := exists_mem_left related he'
  exact fares (admits.checked e he)

theorem checkMapOf_eq_ok_iff {v : Json} :
    checkMapOf s inner d v = .ok () ↔ ∃ k, d.options.ktype.bind s.lookup? = some k ∧
      ∃ t, d.options.vtype.bind s.lookup? = some t ∧
        ∃ es, entries d k v = .ok es ∧ AdmitsEntries s (inner k) (inner t) d es := by
  unfold checkMapOf
  simp only [Except.bind_eq_ok_iff, partType_eq_ok_iff]
  refine exists_congr fun k => and_congr_right fun _ => exists_congr fun t =>
    and_congr_right fun _ => exists_congr fun es => and_congr_right fun _ => ?_
  constructor
  · rintro ⟨⟨⟩, limited, ⟨⟩, checked, size⟩
    obtain ⟨atLeast, atMost⟩ := checkBounds_eq_ok_iff.mp size
    refine ⟨checkCollection_eq_ok_iff.mp limited, fun e he => ?_, atLeast, atMost⟩
    have held := Except.forM_eq_ok_iff.mp checked e he
    rw [Except.bind_eq_ok_iff] at held
    obtain ⟨⟨⟩, key, value⟩ := held
    exact ⟨under_eq_ok_iff.mp key, under_eq_ok_iff.mp value⟩
  · intro admits
    refine ⟨(), checkCollection_eq_ok_iff.mpr admits.limited, (), ?_,
      checkBounds_eq_ok_iff.mpr ⟨admits.atLeast, admits.atMost⟩⟩
    refine Except.forM_eq_ok_iff.mpr fun e he => Except.bind_eq_ok_iff.mpr ⟨(), ?_, ?_⟩
    · exact under_eq_ok_iff.mpr (admits.checked e he).1
    · exact under_eq_ok_iff.mpr (admits.checked e he).2

end Jadn.Validation
