import Jadn.Proofs.Import.Discovery

/-!
What the result of an import is made up of.

It consists of the base and of copies of what is discovered from it, in the order of discovery. A
definition that is not copied is represented by one that was there before.
-/

set_option autoImplicit false

namespace Jadn.Import

open Relation (ReflTransGen)

section Assembling

def Sources.inBase (src : Sources) (localName : String × String → String) (x : String) : String :=
  ((src.baseTarget? x).map localName).getD x

/-- A result is made up of the base and of copies of what is discovered from it, each definition
under one local name. -/
structure Assembled (src : Sources) (r : Schema) (localName : String × String → String)
    (found : List (String × String)) (copies : List ((String × String) × TypeDefinition)) :
    Prop where
  /-- The definitions that the base reaches, depth first. -/
  discovers : Discovers src.next ∅ src.roots found
  reached : ∀ key, key ∈ found ↔ ∃ root ∈ src.roots, ReflTransGen (fun k k' => k' ∈ src.next k) root key
  /-- Every qualified reference of the base is replaced by a local name, and no other one. -/
  qualified : ∀ d ∈ src.base.types, ∀ x ∈ d.referredNames,
    ':' ∈ x.toList ↔ (src.baseTarget? x).isSome
  types : r.types = src.base.types.map (·.replaced (src.inBase localName)) ++ copies.map Prod.snd
  distinct : r.typeNames.Nodup
  once : (copies.map Prod.fst).Nodup
  order : (copies.map Prod.fst).Sublist found
  copied : ∀ c ∈ copies, src.IsCopy c.1 c.2 ∧ c.2.name = localName c.1
  /-- What is not copied is equal to a definition of its local name, of the base or copied for
  what was discovered earlier. -/
  represented : ∀ key ∈ found, key ∉ copies.map Prod.fst →
    ∃ e c, r.get? (localName key) = some e ∧ src.IsCopy key c ∧ (e == c) = true ∧
      ((src.base.get? (localName key)).isSome ∨
        ∃ key', (key', e) ∈ copies ∧ [key', key].Sublist found)

variable {src : Sources} {Good : String → Prop} {st : State} {r : Schema}

theorem not_mem_splitMarker {x : String} (plain : ':' ∉ x.toList) :
    ':' ∉ (splitMarker x).2.toList := by
  unfold splitMarker
  split
  · next cs text =>
    rw [text, List.mem_cons, not_or] at plain
    simpa using plain.2
  · exact plain

theorem Names.good_of_named (naming : Names src Good) {key : String × String} {name : String}
    (named : src.Named key name) : Good name := by
  obtain ⟨declared, rfl | renames⟩ := named
  · obtain ⟨d, found⟩ := Option.isSome_iff_exists.mp declared
    exact naming.declared key d found
  · exact naming.renamed key name renames

theorem Sources.IsCopy.plain (naming : Names src fun x => ':' ∉ x.toList) {key : String × String}
    {c : TypeDefinition} (copy : src.IsCopy key c) : ∀ x ∈ c.referredNames, ':' ∉ x.toList := by
  obtain ⟨d, g, -, -, same, follows⟩ := copy
  have names : c.referredNames = (d.replaced g).referredNames := by
    rw [same]
    rfl
  have plain : ∀ x ∈ d.referredNames, ':' ∉ (g x).toList := by
    intro x hx
    rcases follows x hx with ⟨base, same⟩ | ⟨target, -, named⟩
    · rw [same]
      exact not_mem_of_baseType base
    · exact naming.good_of_named named
  intro y hy
  obtain ⟨x, hx, rfl | rfl⟩ := TypeDefinition.mem_referredNames_replaced (names ▸ hy)
  · exact plain x hx
  · exact not_mem_splitMarker (plain x hx)

/-- The definitions of the base with local names come first, then the copies. -/
theorem Resulted.types_eq (result : Resulted src Good st r) {found : List (String × String)}
    {copies : List ((String × String) × TypeDefinition)}
    (explored : Explored src {} st src.roots found copies) :
    r.types = src.base.types.map (·.replaced (st.baseName src)) ++ copies.map Prod.snd := by
  rw [result.tables.types_eq, explored.imported]
  simp [finished, Dict.values, List.filterMap_map, Function.comp_def]

namespace Resulted

variable (result : Resulted src (fun x => ':' ∉ x.toList) st r)
include result

theorem inBase_eq {d : TypeDefinition} (hd : d ∈ src.base.types) {x : String}
    (hx : x ∈ d.referredNames) :
    st.baseName src x = src.inBase (fun key => (st.memo key).getD key.2) x := by
  rcases result.leads d hd x hx with plain | ⟨target, leads, met⟩
  · simp [State.baseName, Sources.inBase, src.baseTarget?_of_not_mem plain]
  · obtain ⟨name, noted⟩ := Option.isSome_iff_exists.mp met
    simp [State.baseName, Sources.inBase, leads, noted]

theorem qualified_iff {d : TypeDefinition} (hd : d ∈ src.base.types) {x : String}
    (hx : x ∈ d.referredNames) : ':' ∈ x.toList ↔ (src.baseTarget? x).isSome := by
  constructor
  · intro qualified
    rcases result.leads d hd x hx with plain | ⟨target, leads, -⟩
    · exact absurd qualified plain
    · simp [leads]
  · intro leads
    by_contra plain
    simp [src.baseTarget?_of_not_mem plain] at leads

theorem plain_of_base {d : TypeDefinition} (hd : d ∈ src.base.types) :
    ∀ y ∈ (d.replaced (st.baseName src)).referredNames, ':' ∉ y.toList := by
  have plain : ∀ x ∈ d.referredNames, ':' ∉ (st.baseName src x).toList := by
    intro x hx
    rcases result.leads d hd x hx with plain | ⟨target, leads, met⟩
    · rwa [st.baseName_of_not_mem src plain]
    · exact result.sound.good target _ (State.BaseLeads.memo_eq (.inr ⟨target, leads, met⟩) leads)
  intro y hy
  obtain ⟨x, hx, rfl | rfl⟩ := TypeDefinition.mem_referredNames_replaced hy
  · exact plain x hx
  · exact not_mem_splitMarker (plain x hx)

/-- What was held under a name has it in the result, or it is a definition of the base that refers
to packages. -/
theorem get?_or_qualified {n : String} {e : TypeDefinition} (held : st.held src.base n = some e) :
    r.get? n = some e ∨ src.base.get? n = some e ∧ ∃ x ∈ e.referredNames, ':' ∈ x.toList := by
  rcases State.held_eq_some_iff.mp held with declared | ⟨-, imported⟩
  · by_cases plain : ∀ x ∈ e.referredNames, ':' ∉ x.toList
    · obtain ⟨he, rfl⟩ := mem_of_declared? declared
      exact .inl (result.get?_of_plain he plain)
    · simp only [not_forall, not_not] at plain
      obtain ⟨x, hx, qualified⟩ := plain
      exact .inr ⟨declared, x, hx, qualified⟩
  · have entry := mem_of_lookup imported
    have named := result.sound.named n e entry
    rw [← named] at entry ⊢
    exact .inl (result.get?_of_mem (result.mem_types_iff.mpr (.inr entry)))

/-- What was met is equal to a definition of the result. -/
theorem represented (naming : Names src fun x => ':' ∉ x.toList) {key : String × String}
    {name : String} (noted : st.memo key = some name) :
    ∃ e c, r.get? name = some e ∧ src.IsCopy key c ∧ (e == c) = true := by
  obtain ⟨d, e, g, declared, held, same, names⟩ := result.run.settled key name (by rfl) noted
  have copy : src.IsCopy key ((d.replaced g).renamed name) := by
    refine ⟨d, g, declared, result.sound.stands key name noted, rfl, fun x hx => ?_⟩
    rcases names x hx with base | ⟨-, target, leads, named, -⟩
    · exact Or.inl base
    · exact Or.inr ⟨target, leads, named⟩
  refine ⟨e, _, ?_, copy, same⟩
  have plain := copy.plain naming
  rw [← TypeDefinition.referredNames_of_beq same] at plain
  rcases result.get?_or_qualified held with found | ⟨-, x, hx, qualified⟩
  · exact found
  · exact absurd qualified (plain x hx)

theorem assembled (naming : Names src fun x => ':' ∉ x.toList)
    {found : List (String × String)} {copies : List ((String × String) × TypeDefinition)}
    (explored : Explored src {} st src.roots found copies) :
    Assembled src r (fun key => (st.memo key).getD key.2) found copies := by
  have discovers := explored.discovers
  rw [State.met_empty] at discovers
  have types := result.types_eq explored
  have distinct : r.typeNames.Nodup := by
    have distinct := result.tables.distinct
    rwa [← result.tables.types_eq] at distinct
  refine ⟨discovers, fun key => discovers.mem_iff, fun d hd x hx => result.qualified_iff hd hx, ?_,
    distinct, explored.order.nodup discovers.nodup, explored.order, ?_, ?_⟩
  · have replaced : ∀ d ∈ src.base.types, d.replaced (st.baseName src) =
        d.replaced (src.inBase fun key => (st.memo key).getD key.2) :=
      fun d hd => TypeDefinition.replaced_congr fun x hx => result.inBase_eq hd hx
    rw [types, List.map_congr_left replaced]
  · intro c hc
    obtain ⟨copy, noted⟩ := explored.copied c hc
    exact ⟨copy, by simp [noted]⟩
  · intro key hkey uncopied
    obtain ⟨name, noted, known⟩ := (explored.represented key hkey).resolve_left uncopied
    obtain ⟨e, c, declared, copy, same⟩ := result.represented naming noted
    simp only [noted, Option.getD_some]
    refine ⟨e, c, declared, copy, same, ?_⟩
    rcases known with own | ⟨c', hc', named, before⟩
    · left
      simpa [State.isUsed, Dict.contains] using own
    · right
      have listed : c'.2 ∈ r.types := by
        rw [types]
        exact List.mem_append_right _ (List.mem_map_of_mem hc')
      have found := result.get?_of_mem listed
      rw [named, declared] at found
      cases found
      exact ⟨c'.1, hc', before⟩

end Resulted

end Assembling

end Jadn.Import

namespace Jadn.Schema

open Import

/-- The result of an import has no qualified references. It consists of the definitions of the
base, the qualified references replaced by local names, and of copies of definitions that are
reached from these references, in the order of their discovery. -/
theorem importPackages_copies {base : Schema} {packages : List Package} {order : HashOrder}
    {r : Schema}
    (plain : ∀ p ∈ packages, ∀ d ∈ p.schema.types, ':' ∉ d.name.toList)
    (h : base.importPackages packages order = .ok r) :
    r.info = { base.info with namespaces := base.info.namespaces.clear } ∧
      r.info.namespaces.isEmpty = true ∧ r.SelfContained ∧
        ∃ localName found copies,
          Assembled (sources base packages) r localName found copies := by
  obtain ⟨types, st, followed, tables⟩ := importPackages_eq_ok h
  have naming : Names (sources base packages) fun x => ':' ∉ x.toList :=
    names_of plain fun label name apart _ good => not_mem_collisionName apart good
  have result := resulted_of_run naming followed tables
  obtain ⟨found, copies, explored⟩ := baseTypes_explores naming followed
  have assembled := result.assembled naming explored
  refine ⟨tables.info_eq, by rw [tables.info_eq]; rfl, ?_, _, found, copies, assembled⟩
  intro d hd
  rw [assembled.types] at hd
  rcases List.mem_append.mp hd with own | copied
  · obtain ⟨d₀, hd₀, rfl⟩ := List.mem_map.mp own
    have same := TypeDefinition.replaced_congr fun x hx => result.inBase_eq hd₀ hx
    exact same ▸ result.plain_of_base hd₀
  · obtain ⟨c, hc, rfl⟩ := List.mem_map.mp copied
    exact (assembled.copied c hc).1.plain naming

/-- Of two definitions that are discovered the first one is equal to one of the base, and only
the second one is copied. -/
theorem importPackages_folded :
    (∀ p ∈ [Package.mk "pkg" linked], ∀ d ∈ p.schema.types, ':' ∉ d.name.toList) ∧
      ∃ r, loose.importPackages [⟨"pkg", linked⟩] .entered = .ok r ∧
        r.typeNames = ["Root", "Node", "Mark"] ∧
        r.info = { loose.info with namespaces := loose.info.namespaces.clear } ∧
          r.info.namespaces.isEmpty = true ∧ r.SelfContained ∧
            ∃ localName found copies,
              Assembled (sources loose [⟨"pkg", linked⟩]) r localName found copies := by
  have plain : ∀ p ∈ [Package.mk "pkg" linked], ∀ d ∈ p.schema.types, ':' ∉ d.name.toList := by
    intro p hp d hd
    rw [List.mem_singleton.mp hp] at hd
    rcases List.mem_pair.mp hd with rfl | rfl <;> decide
  have names : (loose.importPackages [⟨"pkg", linked⟩] .entered).toOption.map (·.typeNames) =
      some ["Root", "Node", "Mark"] := by decide +kernel
  obtain ⟨r, imported, names⟩ := Option.map_eq_some_iff.mp names
  have done := Except.toOption_eq_some_iff.mp imported
  exact ⟨plain, r, done, names, importPackages_copies plain done⟩

end Jadn.Schema
