import Jadn.Format.Base64
import Mathlib.Tactic.Common

/-!
Base64 as a bijection between octets and texts.

A text without padding is decoded to octets exactly if it is what they are encoded as: no other
text of theirs is read, be it longer, with other bits at its end, or with characters from outside
the alphabet. The same holds of padded texts, as no character of an alphabet is the one that pads.
-/

set_option autoImplicit false

namespace Jadn.Format.Base64

variable {a : Alphabet}

section Characters

/-- Every value has a character of its own, and none of them is the one that pads. -/
structure Alphabet.Unambiguous (a : Alphabet) : Prop where
  reads : ∀ n < 64, value? a (char a n) = some n
  padding : value? a '=' = none

theorem unambiguous_standard : standard.Unambiguous := ⟨by decide, by decide⟩

theorem unambiguous_urlSafe : urlSafe.Unambiguous := ⟨by decide, by decide⟩

theorem char_of_value? {c : Char} {n : Nat} (read : value? a c = some n) :
    n < 64 ∧ char a n = c := by
  -- The character at the place of `c` in a range is `c`.
  have place : ∀ {start : Char}, start ≤ c →
      Char.ofNat (start.toNat + (c.toNat - start.toNat)) = c := by
    intro start low
    have low' : start.toNat ≤ c.toNat := low
    rw [Nat.add_sub_cancel' low', Char.ofNat_toNat]
  unfold value? at read
  split_ifs at read with upper lower digit <;> cases read
  · have high : c.toNat ≤ 'Z'.toNat := upper.2
    have small : c.toNat - 'A'.toNat < 26 := Nat.lt_succ_of_le (Nat.sub_le_sub_right high _)
    rw [char, if_pos small, place upper.1]
    exact ⟨by omega, rfl⟩
  · have high : c.toNat ≤ 'z'.toNat := lower.2
    have small : c.toNat - 'a'.toNat < 26 := Nat.lt_succ_of_le (Nat.sub_le_sub_right high _)
    rw [char, if_neg (by omega), if_pos (by omega), Nat.add_sub_cancel, place lower.1]
    exact ⟨by omega, rfl⟩
  · have high : c.toNat ≤ '9'.toNat := digit.2
    have small : c.toNat - '0'.toNat < 10 := Nat.lt_succ_of_le (Nat.sub_le_sub_right high _)
    rw [char, if_neg (by omega), if_neg (by omega), if_pos (by omega), Nat.add_sub_cancel,
      place digit.1]
    exact ⟨by omega, rfl⟩
  · subst c
    exact ⟨by decide, rfl⟩
  · subst c
    exact ⟨by decide, rfl⟩

end Characters

section Groups

theorem ofNat_eq {n : Nat} {x : UInt8} (same : n = x.toNat) : UInt8.ofNat n = x := by
  rw [same, UInt8.ofNat_toNat]

theorem decode_encode (unambiguous : a.Unambiguous) (octets : List UInt8) :
    decode a (encode a octets) = some octets := by
  have reads := unambiguous.reads
  fun_induction encode a octets with
  | case1 => rfl
  | case2 x =>
    have := x.toNat_lt
    simp only [decode, bind, Option.bind, reads (x.toNat / 4) (by omega),
      reads (x.toNat % 4 * 16) (by omega)]
    rw [if_pos (by omega), ofNat_eq (x := x) (by omega)]
  | case3 x y =>
    have := x.toNat_lt
    have := y.toNat_lt
    simp only [decode, bind, Option.bind, reads (x.toNat / 4) (by omega),
      reads (x.toNat % 4 * 16 + y.toNat / 16) (by omega), reads (y.toNat % 16 * 4) (by omega)]
    rw [if_pos (by omega), ofNat_eq (x := x) (by omega), ofNat_eq (x := y) (by omega)]
  | case4 x y z rest ih =>
    have := x.toNat_lt
    have := y.toNat_lt
    have := z.toNat_lt
    simp only [decode, bind, Option.bind, reads (x.toNat / 4) (by omega),
      reads (x.toNat % 4 * 16 + y.toNat / 16) (by omega),
      reads (y.toNat % 16 * 4 + z.toNat / 64) (by omega), reads (z.toNat % 64) (by omega), ih]
    rw [ofNat_eq (x := x) (by omega), ofNat_eq (x := y) (by omega), ofNat_eq (x := z) (by omega)]

theorem encode_of_decode {text : List Char} {octets : List UInt8}
    (read : decode a text = some octets) : encode a octets = text := by
  have octet : ∀ {n : Nat}, n < 256 → (UInt8.ofNat n).toNat = n := fun small =>
    UInt8.toNat_ofNat_of_lt' small
  fun_induction decode a text generalizing octets with
  | case1 =>
    cases read
    rfl
  | case2 => cases read
  | case3 p q =>
    simp only [Option.bind_eq_bind, Option.bind_eq_some_iff, Option.ite_none_right_eq_some,
      Option.some.injEq] at read
    obtain ⟨v, first, w, second, spare, rfl⟩ := read
    obtain ⟨_, rfl⟩ := char_of_value? first
    obtain ⟨_, rfl⟩ := char_of_value? second
    have values : (v * 4 + w / 16) / 4 = v ∧ (v * 4 + w / 16) % 4 * 16 = w := by omega
    rw [encode, octet (by omega), values.1, values.2]
  | case4 p q r =>
    simp only [Option.bind_eq_bind, Option.bind_eq_some_iff, Option.ite_none_right_eq_some,
      Option.some.injEq] at read
    obtain ⟨v, first, w, second, t, third, spare, rfl⟩ := read
    obtain ⟨_, rfl⟩ := char_of_value? first
    obtain ⟨_, rfl⟩ := char_of_value? second
    obtain ⟨_, rfl⟩ := char_of_value? third
    have values : (v * 4 + w / 16) / 4 = v ∧
        (v * 4 + w / 16) % 4 * 16 + (w % 16 * 16 + t / 4) / 16 = w ∧
        (w % 16 * 16 + t / 4) % 16 * 4 = t := by omega
    rw [encode, octet (by omega), octet (by omega), values.1, values.2.1, values.2.2]
  | case5 p q r s rest ih =>
    simp only [Option.bind_eq_bind, Option.bind_eq_some_iff, Option.some.injEq] at read
    obtain ⟨v, first, w, second, t, third, u, fourth, later, remainder, rfl⟩ := read
    obtain ⟨_, rfl⟩ := char_of_value? first
    obtain ⟨_, rfl⟩ := char_of_value? second
    obtain ⟨_, rfl⟩ := char_of_value? third
    obtain ⟨_, rfl⟩ := char_of_value? fourth
    have values : (v * 4 + w / 16) / 4 = v ∧
        (v * 4 + w / 16) % 4 * 16 + (w % 16 * 16 + t / 4) / 16 = w ∧
        (w % 16 * 16 + t / 4) % 16 * 4 + (t % 4 * 64 + u) / 64 = t ∧
        (t % 4 * 64 + u) % 64 = u := by omega
    rw [encode, octet (by omega), octet (by omega), octet (by omega), values.1, values.2.1,
      values.2.2.1, values.2.2.2, ih remainder]

theorem decode_eq_some_iff (unambiguous : a.Unambiguous) {text : List Char}
    {octets : List UInt8} : decode a text = some octets ↔ text = encode a octets := by
  constructor
  · exact fun read => (encode_of_decode read).symm
  · rintro rfl
    exact decode_encode unambiguous octets

end Groups

section Padding

theorem exists_char_of_mem_encode {octets : List UInt8} {c : Char}
    (member : c ∈ encode a octets) : ∃ n < 64, char a n = c := by
  fun_induction encode a octets with
  | case1 => cases member
  | case2 x =>
    have := x.toNat_lt
    simp only [List.mem_cons, List.not_mem_nil, or_false] at member
    rcases member with rfl | rfl <;> exact ⟨_, by omega, rfl⟩
  | case3 x y =>
    have := x.toNat_lt
    have := y.toNat_lt
    simp only [List.mem_cons, List.not_mem_nil, or_false] at member
    rcases member with rfl | rfl | rfl <;> exact ⟨_, by omega, rfl⟩
  | case4 x y z rest ih =>
    have := x.toNat_lt
    have := y.toNat_lt
    have := z.toNat_lt
    simp only [List.mem_cons] at member
    rcases member with rfl | rfl | rfl | rfl | later
    · exact ⟨_, by omega, rfl⟩
    · exact ⟨_, by omega, rfl⟩
    · exact ⟨_, by omega, rfl⟩
    · exact ⟨_, by omega, rfl⟩
    · exact ih later

theorem ne_padding_of_mem_encode (unambiguous : a.Unambiguous) {octets : List UInt8} {c : Char}
    (member : c ∈ encode a octets) : c ≠ '=' := by
  obtain ⟨n, small, rfl⟩ := exists_char_of_mem_encode member
  intro same
  have read := unambiguous.reads n small
  rw [same, unambiguous.padding] at read
  cases read

theorem decodePadded_eq_some_iff (unambiguous : a.Unambiguous) {text : List Char}
    {octets : List UInt8} :
    decodePadded a text = some octets ↔ text = encodePadded a octets := by
  unfold decodePadded encodePadded
  dsimp only
  constructor
  · intro read
    obtain ⟨padded, read⟩ := Option.ite_none_right_eq_some.mp read
    have body := (decode_eq_some_iff unambiguous).mp read
    rw [← body, ← padded, List.takeWhile_append_dropWhile]
  · rintro rfl
    have plain : ∀ c ∈ encode a octets, (c != '=') = true := fun c member =>
      bne_iff_ne.mpr (ne_padding_of_mem_encode unambiguous member)
    have body : (encode a octets ++ padding (encode a octets).length).takeWhile (· != '=') =
        encode a octets := by
      rw [List.takeWhile_append_of_pos plain, padding, List.takeWhile_replicate]
      simp
    have rest : (encode a octets ++ padding (encode a octets).length).dropWhile (· != '=') =
        padding (encode a octets).length := by
      rw [List.dropWhile_append_of_pos plain, padding, List.dropWhile_replicate]
      simp
    simp only [body, rest, if_true, decode_encode unambiguous]

/-- One octet fills two characters, and a third octet leaves nothing to pad. -/
example : String.ofList (encodePadded standard [0x66, 0x6f, 0x6f, 0x62]) = "Zm9vYg==" ∧
    String.ofList (encodePadded standard [0x66, 0x6f, 0x6f]) = "Zm9v" := by decide +kernel

end Padding

end Jadn.Format.Base64
