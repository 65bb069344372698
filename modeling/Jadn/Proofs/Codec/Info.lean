import Jadn.Info
import Jadn.Proofs.Codec.Members

/-!
What a schema says about itself, read back from what it is written as.

Nothing that is said is lost: namespaces keep their form and order, and members without a
meaning stay as they are. Only the form of no namespaces at all is not written.
-/

set_option autoImplicit false

namespace Jadn

open Json (Distinct)
open Json.Members (Unknown written lookup_written others_written optional?_eq withDefault?_eq)

namespace Namespaces

variable {n : Namespaces}

theorem mapM_memberOfJson? (packages : Dict String) :
    (packages.map fun e => (e.1, Json.str e.2)).mapM memberOfJson? = some packages := by
  induction packages with
  | nil => rfl
  | cons e packages ih =>
    rw [List.map_cons, List.mapM_cons, ih]
    rfl

theorem mapM_pairOfJson? (packages : Dict String) :
    (packages.map fun e => Json.arr [.str e.1, .str e.2]).mapM pairOfJson? = some packages := by
  induction packages with
  | nil => rfl
  | cons e packages ih =>
    rw [List.map_cons, List.mapM_cons, ih]
    rfl

theorem ofJson?_toJson (distinct : n.packages.keys.Nodup) : ofJson? n.toJson = some n := by
  obtain ⟨packages, asPairs⟩ := n
  cases asPairs with
  | true =>
    have read : ofJson? (toJson ⟨packages, true⟩) = some ⟨Dict.ofList packages, true⟩ :=
      congrArg (Option.map fun ps => (⟨Dict.ofList ps, true⟩ : Namespaces))
        (mapM_pairOfJson? packages)
    rw [read, Dict.ofList_of_nodup distinct]
  | false =>
    exact congrArg (Option.map fun ps => (⟨ps, false⟩ : Namespaces)) (mapM_memberOfJson? packages)

theorem keys_of_mapM_memberOfJson? {members : List (String × Json)} {packages : Dict String}
    (h : members.mapM memberOfJson? = some packages) :
    packages.keys = members.map Prod.fst := by
  induction members generalizing packages with
  | nil =>
    cases h
    rfl
  | cons m members ih =>
    rw [List.mapM_cons] at h
    obtain ⟨e, own, h⟩ := Option.bind_eq_some_iff.mp h
    obtain ⟨rest, others, h⟩ := Option.bind_eq_some_iff.mp h
    cases h
    have key : e.1 = m.1 := by
      unfold memberOfJson? at own
      split at own
      · cases own
        rfl
      · cases own
    rw [Dict.keys, List.map_cons, List.map_cons, key, ← ih others]
    rfl

/-- No two namespaces that were read have one label. -/
theorem keys_nodup_of_ofJson? {value : Json} (distinct : value.Distinct)
    (h : ofJson? value = some n) : n.packages.keys.Nodup := by
  unfold ofJson? at h
  split at h
  · obtain ⟨packages, read, rfl⟩ := Option.map_eq_some_iff.mp h
    cases distinct with
    | obj names _ =>
      rw [keys_of_mapM_memberOfJson? read]
      exact names
  · obtain ⟨packages, -, rfl⟩ := Option.map_eq_some_iff.mp h
    exact Dict.keys_ofList_nodup packages
  · cases h

end Namespaces

namespace Config

def known (c : Config) : List (String × Option Json) :=
  [("$MaxBinary", c.maxBinary.map Json.ofUInt64), ("$MaxString", c.maxString.map Json.ofUInt64),
    ("$MaxElements", c.maxElements.map Json.ofUInt64), ("$Sys", c.sys.map Json.str),
    ("$TypeName", c.typeName.map Json.str), ("$FieldName", c.fieldName.map Json.str),
    ("$NSID", c.nsid.map Json.str)]

theorem toJson_eq (c : Config) : c.toJson = .obj (written c.known ++ c.extra) := by
  simp only [toJson, known, Json.Members.written_cons, List.append_assoc]
  rfl

theorem uint64?_ofUInt64 (n : UInt64) : (Json.ofUInt64 n).uint64? = some n := by
  have bounds : (0 : Int) ≤ n.toNat ∧ (n.toNat : Int) < UInt64.size := by
    have := n.toNat_lt_size
    omega
  simp only [Json.ofUInt64, Json.uint64?, if_pos bounds]
  simp

theorem ofJson?_toJson {c : Config} (h : Unknown knownKeys c.extra) :
    ofJson? c.toJson = some c := by
  have distinct : (c.known.map Prod.fst).Nodup := by simp [known]
  have apart : ∀ e ∈ c.extra, e.1 ∉ c.known.map Prod.fst := h.names
  have number : ∀ key n, (key, n.map Json.ofUInt64) ∈ c.known →
      Json.Members.optional? Json.uint64? (written c.known ++ c.extra) key = some n :=
    fun key n member => optional?_eq (lookup_written distinct apart member) (fun _ => rfl)
      uint64?_ofUInt64
  have text : ∀ key s, (key, s.map Json.str) ∈ c.known →
      Json.Members.optional? Json.str? (written c.known ++ c.extra) key = some s :=
    fun key s member => optional?_eq (lookup_written distinct apart member) (fun _ => rfl)
      fun _ => rfl
  have others : Json.Members.others knownKeys (written c.known ++ c.extra) = c.extra :=
    others_written apart
  rw [toJson_eq]
  simp only [ofJson?, Json.obj?, Option.bind_eq_bind, Option.bind_some, others,
    number "$MaxBinary" c.maxBinary (by simp [known]),
    number "$MaxString" c.maxString (by simp [known]),
    number "$MaxElements" c.maxElements (by simp [known]),
    text "$Sys" c.sys (by simp [known]), text "$TypeName" c.typeName (by simp [known]),
    text "$FieldName" c.fieldName (by simp [known]), text "$NSID" c.nsid (by simp [known])]
  rfl

theorem unknown_of_ofJson? {c : Config} {value : Json} (distinct : value.Distinct)
    (h : ofJson? value = some c) : Unknown knownKeys c.extra := by
  simp only [ofJson?, Option.bind_eq_bind, Option.bind_eq_some_iff] at h
  obtain ⟨members, hmembers, _, _, _, _, _, _, _, _, _, _, _, _, _, _, read⟩ := h
  cases read
  cases value with
  | obj ms =>
    cases hmembers
    exact Json.Members.unknown_others knownKeys distinct
  | _ => cases hmembers

theorem same_self {c : Config} (h : Unknown knownKeys c.extra) : (c == c) = true := by
  change same c c = true
  simp only [same, beq_self_eq_true, h.same_self, Bool.and_self]

theorem eq_empty_of_isEmpty {c : Config} (h : c.isEmpty = true) : c = {} := by
  have fields : same c {} = true := h
  obtain ⟨maxBinary, maxString, maxElements, sys, typeName, fieldName, nsid, extra⟩ := c
  simp only [same, Bool.and_eq_true, beq_iff_eq] at fields
  obtain ⟨⟨⟨⟨⟨⟨⟨rfl, rfl⟩, rfl⟩, rfl⟩, rfl⟩, rfl⟩, rfl⟩, unknown⟩ := fields
  obtain rfl : extra = [] := Dict.eq_nil_of_sameBy unknown
  rfl

end Config

namespace Info

structure Writable (i : Info) : Prop where
  labels : i.namespaces.packages.keys.Nodup
  config : Unknown Config.knownKeys i.config.extra
  extra : Unknown knownKeys i.extra

/-- What is said once it is read back: no namespaces have no form. -/
def readBack (i : Info) : Info :=
  { i with namespaces := (present? Namespaces.isEmpty i.namespaces).getD {} }

def known (i : Info) : List (String × Option Json) :=
  [("package", (present? String.isEmpty i.package).map Json.str),
    ("version", i.version.map Json.str), ("title", i.title.map Json.str),
    ("description", i.description.map Json.str), ("comment", i.comment.map Json.str),
    ("copyright", i.copyright.map Json.str), ("license", i.license.map Json.str),
    ("namespaces", (present? Namespaces.isEmpty i.namespaces).map Namespaces.toJson),
    ("exports", (present? List.isEmpty i.exports).map Json.strings),
    ("config", (present? Config.isEmpty i.config).map Config.toJson)]

theorem toJson_eq (i : Info) : i.toJson = .obj (written i.known ++ i.extra) := by
  simp only [toJson, known, Json.Members.written_cons, List.append_assoc]
  rfl

theorem mem_present? {α : Type} {isEmpty : α → Bool} {a b : α} (h : b ∈ present? isEmpty a) :
    b = a := by
  unfold present? at h
  split at h
  · cases h
  · exact (Option.some.inj h).symm

theorem present?_getD {α : Type} {isEmpty : α → Bool} {a default : α}
    (h : isEmpty a = true → a = default) : (present? isEmpty a).getD default = a := by
  unfold present?
  split
  · next empty => exact (h empty).symm
  · rfl

theorem exportsOfJson?_strings (names : List String) :
    exportsOfJson? (Json.strings names) = some names := by
  induction names with
  | nil => rfl
  | cons name names ih =>
    have rest : (names.map Json.str).mapM Json.str? = some names := ih
    simp only [exportsOfJson?, Json.strings, Json.arr?, Option.bind_eq_bind, Option.bind_some,
      List.map_cons, List.mapM_cons, rest]
    rfl

theorem ofJson?_toJson {i : Info} (h : i.Writable) : ofJson? i.toJson = some i.readBack := by
  have distinct : (i.known.map Prod.fst).Nodup := by simp [known]
  have apart : ∀ e ∈ i.extra, e.1 ∉ i.known.map Prod.fst := h.extra.names
  have text : ∀ key s, (key, s.map Json.str) ∈ i.known →
      Json.Members.optional? Json.str? (written i.known ++ i.extra) key = some s :=
    fun key s member => optional?_eq (lookup_written distinct apart member) (fun _ => rfl)
      fun _ => rfl
  have others : Json.Members.others knownKeys (written i.known ++ i.extra) = i.extra :=
    others_written apart
  have named : ("package", (present? String.isEmpty i.package).map Json.str) ∈ i.known := by
    simp [known]
  have labelled : ("namespaces",
      (present? Namespaces.isEmpty i.namespaces).map Namespaces.toJson) ∈ i.known := by
    simp [known]
  have exported : ("exports", (present? List.isEmpty i.exports).map Json.strings) ∈ i.known := by
    simp [known]
  have configured : ("config", (present? Config.isEmpty i.config).map Config.toJson) ∈ i.known := by
    simp [known]
  have package : Json.Members.withDefault? "" Json.str? (written i.known ++ i.extra) "package" =
      some ((present? String.isEmpty i.package).getD "") :=
    withDefault?_eq (lookup_written distinct apart named) fun _ _ => rfl
  have namespaces : Json.Members.withDefault? {} Namespaces.ofJson?
      (written i.known ++ i.extra) "namespaces" =
        some ((present? Namespaces.isEmpty i.namespaces).getD {}) := by
    refine withDefault?_eq (lookup_written distinct apart labelled) fun n hn => ?_
    rw [mem_present? hn]
    exact Namespaces.ofJson?_toJson h.labels
  have exports : Json.Members.withDefault? [] exportsOfJson? (written i.known ++ i.extra)
      "exports" = some ((present? List.isEmpty i.exports).getD []) :=
    withDefault?_eq (lookup_written distinct apart exported) fun names _ =>
      exportsOfJson?_strings names
  have config : Json.Members.withDefault? {} Config.ofJson? (written i.known ++ i.extra)
      "config" = some ((present? Config.isEmpty i.config).getD {}) := by
    refine withDefault?_eq (lookup_written distinct apart configured) fun c hc => ?_
    rw [mem_present? hc]
    exact Config.ofJson?_toJson h.config
  rw [present?_getD fun empty => String.isEmpty_iff.mp empty] at package
  rw [present?_getD fun empty => List.isEmpty_iff.mp empty] at exports
  rw [present?_getD fun empty => Config.eq_empty_of_isEmpty empty] at config
  rw [toJson_eq]
  simp only [ofJson?, Json.obj?, Option.bind_eq_bind, Option.bind_some, others, package,
    namespaces, exports, config,
    text "version" i.version (by simp [known]), text "title" i.title (by simp [known]),
    text "description" i.description (by simp [known]),
    text "comment" i.comment (by simp [known]), text "copyright" i.copyright (by simp [known]),
    text "license" i.license (by simp [known])]
  rfl

theorem writable_empty : ({} : Info).Writable :=
  ⟨List.nodup_nil, Json.Members.unknown_nil _, Json.Members.unknown_nil _⟩

theorem writable_of_ofJson? {i : Info} {value : Json} (distinct : value.Distinct)
    (h : ofJson? value = some i) : i.Writable := by
  simp only [ofJson?, Option.bind_eq_bind, Option.bind_eq_some_iff] at h
  obtain ⟨members, hmembers, package, hpackage, _, _, _, _, _, _, _, _, _, _, _, _, namespaces,
    hnamespaces, exports, hexports, config, hconfig, read⟩ := h
  cases read
  cases value with
  | obj ms =>
    cases hmembers
    refine ⟨?_, ?_, Json.Members.unknown_others knownKeys distinct⟩
    · rcases Json.Members.withDefault?_eq_some hnamespaces with rfl | ⟨v, member, read⟩
      · exact List.nodup_nil
      · exact Namespaces.keys_nodup_of_ofJson? (Json.Members.distinct_of_mem distinct member) read
    · rcases Json.Members.withDefault?_eq_some hconfig with rfl | ⟨v, member, read⟩
      · exact Json.Members.unknown_nil _
      · exact Config.unknown_of_ofJson? (Json.Members.distinct_of_mem distinct member) read
  | _ => cases hmembers

theorem readBack_of_some {i : Info} (h : i.namespaces.isEmpty = false) : i.readBack = i := by
  simp [readBack, present?, h]

theorem readBack_of_none {i : Info} (h : i.namespaces.isEmpty = true) :
    i.readBack = { i with namespaces := {} } := by
  simp [readBack, present?, h]

/-- What is read back says the same. -/
theorem readBack_same {i : Info} (h : i.Writable) : (i.readBack == i) = true := by
  have namespaces : (i.readBack.namespaces == i.namespaces) = true := by
    cases empty : i.namespaces.isEmpty with
    | true =>
      have none : i.namespaces.packages = [] := List.isEmpty_iff.mp empty
      rw [readBack_of_none empty]
      change Dict.sameBy (· == ·) [] i.namespaces.packages = true
      rw [none]
      rfl
    | false =>
      rw [readBack_of_some empty]
      exact Dict.sameBy_self h.labels fun e _ => beq_self_eq_true e.2
  have config := Config.same_self h.config
  have extra := h.extra.same_self
  change same i.readBack i = true
  simp only [same, namespaces]
  simp only [readBack, beq_self_eq_true, config, extra, Bool.and_self]

theorem isEmpty_readBack (i : Info) : i.readBack.isEmpty = i.isEmpty := by
  cases empty : i.namespaces.isEmpty with
  | true =>
    have none : i.namespaces.packages = [] := List.isEmpty_iff.mp empty
    have blank : (i.namespaces == {}) = (({} : Namespaces) == {}) := by
      change Dict.sameBy (· == ·) i.namespaces.packages [] = _
      rw [none]
      rfl
    rw [readBack_of_none empty]
    change same _ _ = same _ _
    simp only [same, blank]
  | false => rw [readBack_of_some empty]

/-- What is read back is written as before. -/
theorem toJson_readBack (i : Info) : i.readBack.toJson = i.toJson := by
  cases empty : i.namespaces.isEmpty with
  | true =>
    have unset : present? Namespaces.isEmpty i.namespaces = none := by simp [present?, empty]
    have unset' : present? Namespaces.isEmpty ({} : Namespaces) = none := rfl
    rw [readBack_of_none empty]
    simp only [toJson, unset, unset']
  | false => rw [readBack_of_some empty]

theorem readBack_of_isEmpty {i : Info} (h : i.isEmpty = true) : i.readBack = {} := by
  have fields : same i {} = true := h
  obtain ⟨package, version, title, description, comment, copyright, license, namespaces, exports,
    config, extra⟩ := i
  simp only [same, Bool.and_eq_true, beq_iff_eq] at fields
  obtain ⟨⟨⟨⟨⟨⟨⟨⟨⟨⟨rfl, rfl⟩, rfl⟩, rfl⟩, rfl⟩, rfl⟩, rfl⟩, labels⟩, rfl⟩, configured⟩, unknown⟩ := fields
  obtain rfl : config = {} := Config.eq_empty_of_isEmpty configured
  obtain rfl : extra = [] := Dict.eq_nil_of_sameBy unknown
  have unlabelled : namespaces.packages.sameBy (· == ·) [] = true := labels
  have none : namespaces.packages = [] := Dict.eq_nil_of_sameBy unlabelled
  exact readBack_of_none (List.isEmpty_iff.mpr none)

end Info

end Jadn
