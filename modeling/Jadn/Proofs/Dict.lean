import Jadn.Dict
import Mathlib.Data.List.Nodup

/-!
Look-ups in association lists: what is found is an entry, and an entry is found if no other
has its key.
-/

set_option autoImplicit false

namespace Jadn

universe u v

theorem mem_of_lookup {κ : Type u} {α : Type v} [BEq κ] [LawfulBEq κ] {l : List (κ × α)} {k : κ}
    {v : α} (h : l.lookup k = some v) : (k, v) ∈ l := by
  obtain ⟨before, after, rfl, -⟩ := List.lookup_eq_some_iff.mp h
  simp

theorem lookup_of_mem {κ : Type u} {α : Type v} [BEq κ] [LawfulBEq κ] {l : List (κ × α)} {k : κ}
    {v : α} (distinct : (l.map Prod.fst).Nodup) (h : (k, v) ∈ l) : l.lookup k = some v := by
  obtain ⟨before, after, rfl⟩ := List.append_of_mem h
  refine List.lookup_eq_some_iff.mpr ⟨before, after, rfl, ?_⟩
  intro p hp
  simp only [List.map_append, List.map_cons, List.nodup_append, List.mem_map,
    List.mem_cons] at distinct
  have apart := distinct.2.2 p.1 ⟨p, hp, rfl⟩ k (Or.inl rfl)
  simpa using fun same => apart same.symm

/-- Lists with the same entries, each of them with distinct keys, have the same look-ups. -/
theorem lookup_congr {κ : Type u} {α : Type v} [BEq κ] [LawfulBEq κ] {l l' : List (κ × α)}
    (distinct : (l.map Prod.fst).Nodup) (distinct' : (l'.map Prod.fst).Nodup)
    (same : ∀ entry, entry ∈ l ↔ entry ∈ l') (k : κ) : l.lookup k = l'.lookup k := by
  ext v
  constructor
  · exact fun found => lookup_of_mem distinct' ((same _).mp (mem_of_lookup found))
  · exact fun found => lookup_of_mem distinct ((same _).mpr (mem_of_lookup found))

namespace Dict

variable {α : Type u}

theorem forall_lookup_insert {P : String → α → Prop} {d : Dict α} {key : String} {value : α}
    (h : ∀ k v, d.lookup k = some v → P k v) (new : P key value) :
    ∀ k v, (d.insert key value).lookup k = some v → P k v := by
  intro k v found
  by_cases same : k = key
  · subst same
    rw [lookup_insert_self] at found
    exact Option.some.inj found ▸ new
  · rw [lookup_insert_of_ne d value same] at found
    exact h k v found

theorem mem_of_lookup_ofList {entries : List (String × α)} {key : String} {value : α}
    (h : (ofList entries).lookup key = some value) : (key, value) ∈ entries := by
  have all : ∀ (later : List (String × α)) (d : Dict α),
      (∀ k v, d.lookup k = some v → (k, v) ∈ entries) → (∀ e ∈ later, e ∈ entries) →
        ∀ k v, (later.foldl (fun d e => d.insert e.1 e.2) d).lookup k = some v →
          (k, v) ∈ entries := by
    intro later
    induction later with
    | nil => exact fun d known _ => known
    | cons e later ih =>
      intro d known given
      refine ih _ (fun k v found => ?_) fun e' he' => given e' (List.mem_cons_of_mem _ he')
      by_cases same : k = e.1
      · subst same
        rw [lookup_insert_self] at found
        cases found
        exact given e List.mem_cons_self
      · rw [lookup_insert_of_ne d e.2 same] at found
        exact known k v found
  exact all entries [] (fun k v found => by simp at found) (fun e he => he) key value h

theorem contains_iff_mem_keys {d : Dict α} {key : String} :
    d.contains key = true ↔ key ∈ d.keys := by
  simp [contains, keys, List.lookup_isSome_iff]

theorem lookup_of_not_mem {d : Dict α} {key : String} (h : key ∉ d.keys) : d.lookup key = none := by
  rw [← contains_iff_mem_keys, contains, Bool.not_eq_true, Option.isSome_eq_false_iff] at h
  exact Option.isNone_iff_eq_none.mp h

theorem insert_of_not_mem {d : Dict α} {key : String} (value : α) (h : key ∉ d.keys) :
    d.insert key value = d ++ [(key, value)] := by
  induction d with
  | nil => rfl
  | cons entry d ih =>
    obtain ⟨k, v⟩ := entry
    simp only [keys, List.map_cons, List.mem_cons, not_or] at h
    have apart : k ≠ key := fun same => h.1 same.symm
    simp [insert, apart, ih h.2]

theorem insert_append_cons {before after : Dict α} {key : String} (old value : α)
    (h : key ∉ before.keys) :
    Dict.insert key value (before ++ (key, old) :: after) = before ++ (key, value) :: after := by
  induction before with
  | nil => simp [insert]
  | cons entry before ih =>
    obtain ⟨k, v⟩ := entry
    simp only [keys, List.map_cons, List.mem_cons, not_or] at h
    have apart : k ≠ key := fun same => h.1 same.symm
    simp [insert, apart, ih h.2]

theorem erase_of_not_mem {d : Dict α} {key : String} (h : key ∉ d.keys) : d.erase key = d := by
  refine List.filter_eq_self.mpr fun entry member => ?_
  have : entry.1 ≠ key := fun same => h (same ▸ List.mem_map_of_mem member)
  simpa using this

theorem erase_append_cons {before after : Dict α} {key : String} (old : α)
    (first : key ∉ before.keys) (last : key ∉ after.keys) :
    Dict.erase (before ++ (key, old) :: after) key = before ++ after := by
  have early : before.filter (fun entry => entry.1 != key) = before := erase_of_not_mem first
  have late : after.filter (fun entry => entry.1 != key) = after := erase_of_not_mem last
  rw [erase, List.filter_append, early, List.filter_cons_of_neg (by simp), late]

theorem ofList_of_nodup {entries : List (String × α)} (distinct : (entries.map Prod.fst).Nodup) :
    ofList entries = entries := by
  have all : ∀ (later : List (String × α)) (d : Dict α), ((d ++ later).map Prod.fst).Nodup →
      later.foldl (fun d e => d.insert e.1 e.2) d = d ++ later := by
    intro later
    induction later with
    | nil => exact fun d _ => (List.append_nil d).symm
    | cons e later ih =>
      intro d distinct
      have fresh : e.1 ∉ d.keys := by
        intro member
        rw [List.map_append, List.map_cons, List.nodup_append] at distinct
        exact distinct.2.2 e.1 member e.1 List.mem_cons_self rfl
      rw [List.foldl_cons, insert_of_not_mem e.2 fresh, ih _ (by simpa using distinct)]
      simp
  exact all entries [] distinct

theorem mem_of_mem_insert {d : Dict α} {key : String} {value : α} {e : String × α}
    (h : e ∈ d.insert key value) : e = (key, value) ∨ e ∈ d := by
  induction d with
  | nil => exact Or.inl (List.mem_singleton.mp h)
  | cons entry d ih =>
    obtain ⟨k, old⟩ := entry
    unfold insert at h
    split at h
    · rcases List.mem_cons.mp h with rfl | later
      · exact Or.inl rfl
      · exact Or.inr (List.mem_cons_of_mem _ later)
    · rcases List.mem_cons.mp h with rfl | later
      · exact Or.inr List.mem_cons_self
      · exact (ih later).imp_right (List.mem_cons_of_mem _)

theorem keys_insert_nodup {d : Dict α} (distinct : d.keys.Nodup) (key : String)
    (value : α) : (d.insert key value).keys.Nodup := by
  by_cases listed : key ∈ d.keys
  · obtain ⟨⟨k, old⟩, member, same⟩ := List.mem_map.mp listed
    obtain ⟨before, after, rfl⟩ := List.append_of_mem member
    subst same
    have apart : k ∉ Dict.keys before := by
      intro early
      simp only [keys, List.map_append, List.map_cons, List.nodup_append] at distinct
      exact distinct.2.2 k early k List.mem_cons_self rfl
    rw [insert_append_cons old value apart]
    simpa [keys] using distinct
  · rw [insert_of_not_mem value listed]
    simpa [keys] using List.Nodup.concat listed distinct

theorem keys_ofList_nodup (entries : List (String × α)) :
    (ofList entries).keys.Nodup := by
  have all : ∀ (later : List (String × α)) (d : Dict α), d.keys.Nodup →
      (later.foldl (fun d e => d.insert e.1 e.2) d).keys.Nodup := by
    intro later
    induction later with
    | nil => exact fun d distinct => distinct
    | cons e later ih => exact fun d distinct => ih _ (keys_insert_nodup distinct e.1 e.2)
  exact all entries [] List.nodup_nil

end Dict

end Jadn
