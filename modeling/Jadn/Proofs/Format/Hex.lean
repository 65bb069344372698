import Jadn.Format.Hex
import Mathlib.Tactic.Common

/-!
Hexadecimal texts of octets.

A text is decoded to octets exactly if it is what they are encoded as, up to the case of its
letters. A hardware address is decoded exactly if it consists of such pairs of digits with a
colon or a hyphen between neighbours, each chosen at will, and has six of them or eight.
-/

set_option autoImplicit false

namespace Jadn

namespace Numeral

/-- What is checked of the first characters one by one holds of each of them. -/
theorem forall_ascii {P : Char → Prop} (table : ∀ n < 128, P (Char.ofNat n)) {c : Char}
    (ascii : c.toNat < 128) : P c := by
  have here := table c.toNat ascii
  rwa [Char.ofNat_toNat] at here

theorem hexDigit?_of_not_ascii {c : Char} (other : ¬ c.toNat < 128) : hexDigit? c = none := by
  have beyond : ∀ last : Char, last.toNat < 128 → ¬ c ≤ last := by
    intro last ascii upTo
    have bound : c.toNat ≤ last.toNat := upTo
    omega
  rw [hexDigit?, if_neg fun range => beyond '9' (by decide) range.2,
    if_neg fun range => beyond 'f' (by decide) range.2,
    if_neg fun range => beyond 'F' (by decide) range.2]

theorem hexDigit?_toLower (c : Char) : hexDigit? c.toLower = hexDigit? c := by
  by_cases ascii : c.toNat < 128
  · exact forall_ascii (P := fun c => hexDigit? c.toLower = hexDigit? c) (by decide) ascii
  · have same : c.toLower = c := by
      refine dif_neg fun upper => ascii ?_
      have bound : c.toNat ≤ 'Z'.toNat := upper.2
      exact Nat.lt_of_le_of_lt bound (by decide)
    rw [same]

theorem hexDigit?_hexChar : ∀ n < 16, hexDigit? (hexChar n) = some n := by decide

theorem hexDigit?_eq_some_iff {c : Char} {n : Nat} :
    hexDigit? c = some n ↔ n < 16 ∧ c.toLower = hexChar n := by
  constructor
  · intro read
    by_cases ascii : c.toNat < 128
    · have table : ∀ m < 128, ∀ n ∈ hexDigit? (Char.ofNat m),
          n < 16 ∧ (Char.ofNat m).toLower = hexChar n := by decide
      exact forall_ascii (P := fun c => ∀ n ∈ hexDigit? c, n < 16 ∧ c.toLower = hexChar n)
        table ascii n read
    · rw [hexDigit?_of_not_ascii ascii] at read
      cases read
  · rintro ⟨small, lower⟩
    rw [← hexDigit?_toLower, lower, hexDigit?_hexChar n small]

end Numeral

namespace Format.Hex

open Numeral

/-- A text of octets, whatever the case of its letters. -/
def Spells (text : List Char) (octets : List UInt8) : Prop := text.map Char.toLower = encode octets

inductive Joined : List Char → List UInt8 → Prop where
  | single {high low : Char} {b : UInt8} (pair : Spells [high, low] [b]) : Joined [high, low] [b]
  | cons {high low separator : Char} {rest : List Char} {b : UInt8} {octets : List UInt8}
      (pair : Spells [high, low] [b]) (between : separator = ':' ∨ separator = '-')
      (later : Joined rest octets) : Joined (high :: low :: separator :: rest) (b :: octets)

variable {high low : Char} {text : List Char} {b : UInt8} {octets : List UInt8}

theorem spells_pair_iff : Spells [high, low] [b] ↔
    high.toLower = hexChar (b.toNat / 16) ∧ low.toLower = hexChar (b.toNat % 16) := by
  simp [Spells, encode]

theorem spells_cons_iff : Spells (high :: low :: text) (b :: octets) ↔
    Spells [high, low] [b] ∧ Spells text octets := by
  simp [Spells, encode, and_assoc]

theorem spells_nil_iff : Spells [] octets ↔ octets = [] := by
  cases octets <;> simp [Spells, encode]

theorem octet?_eq_some_iff : octet? high low = some b ↔ Spells [high, low] [b] := by
  rw [spells_pair_iff]
  simp only [octet?, Option.bind_eq_bind, Option.bind_eq_some_iff, hexDigit?_eq_some_iff,
    Option.some.injEq]
  constructor
  · rintro ⟨h, ⟨_, first⟩, l, ⟨_, second⟩, rfl⟩
    have value : (UInt8.ofNat (16 * h + l)).toNat = 16 * h + l :=
      UInt8.toNat_ofNat_of_lt' (by rw [UInt8.size]; omega)
    have digits : (16 * h + l) / 16 = h ∧ (16 * h + l) % 16 = l := by omega
    rw [value, digits.1, digits.2]
    exact ⟨first, second⟩
  · rintro ⟨first, second⟩
    have := b.toNat_lt
    have value : 16 * (b.toNat / 16) + b.toNat % 16 = b.toNat := Nat.div_add_mod _ 16
    exact ⟨_, ⟨by omega, first⟩, _, ⟨by omega, second⟩, by rw [value, UInt8.ofNat_toNat]⟩

/-- A text is decoded to the octets that it spells. -/
theorem decode_eq_some_iff : decode text = some octets ↔ Spells text octets := by
  fun_induction decode text generalizing octets with
  | case1 => rw [spells_nil_iff, Option.some.injEq, eq_comm]
  | case2 c => cases octets <;> simp [Spells, encode]
  | case3 high low rest ih =>
    cases octets with
    | nil => simp [Spells, encode, Option.bind_eq_some_iff]
    | cons b octets =>
      rw [spells_cons_iff]
      simp only [Option.bind_eq_bind, Option.bind_eq_some_iff, octet?_eq_some_iff, ih,
        Option.some.injEq, List.cons.injEq]
      constructor
      · rintro ⟨_, pair, _, later, rfl, rfl⟩
        exact ⟨pair, later⟩
      · rintro ⟨pair, later⟩
        exact ⟨b, pair, octets, later, rfl, rfl⟩

theorem isSeparator_iff {c : Char} : isSeparator c = true ↔ c = ':' ∨ c = '-' := by
  simp [isSeparator]

theorem decodeSeparated_eq_some_iff : decodeSeparated text = some octets ↔ Joined text octets := by
  constructor
  · intro read
    fun_induction decodeSeparated text generalizing octets with
    | case1 high low =>
      obtain ⟨b, pair, rfl⟩ := Option.map_eq_some_iff.mp read
      exact .single (octet?_eq_some_iff.mp pair)
    | case2 high low separator rest between ih =>
      simp only [Option.bind_eq_bind, Option.bind_eq_some_iff, Option.some.injEq] at read
      obtain ⟨b, pair, octets, later, rfl⟩ := read
      exact .cons (octet?_eq_some_iff.mp pair) (isSeparator_iff.mp between) (ih later)
    | case3 => cases read
    | case4 => cases read
  · intro joined
    induction joined with
    | single pair => rw [decodeSeparated, octet?_eq_some_iff.mpr pair, Option.map_some]
    | cons pair between _ ih =>
      rw [decodeSeparated, if_pos (isSeparator_iff.mpr between), octet?_eq_some_iff.mpr pair, ih]
      rfl

theorem decodeAddress_eq_some_iff : decodeAddress text = some octets ↔
    (octets.length = 6 ∨ octets.length = 8) ∧ Joined text octets := by
  rw [decodeAddress, Option.filter_eq_some_iff, decodeSeparated_eq_some_iff, and_comm,
    Bool.or_eq_true, beq_iff_eq, beq_iff_eq]

end Format.Hex

end Jadn
