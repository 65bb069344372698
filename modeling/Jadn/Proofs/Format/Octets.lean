import Jadn.Format
import Jadn.Proofs.Format.Base64
import Jadn.Proofs.Format.Hex
import Mathlib.Data.List.DropRight

/-!
The texts of binary values.

Each format has an encoding, and a text is decoded to octets exactly if it is an encoding of them:
what is written is read back, and nothing else is read. Two formats leave a choice to the writer:
digits have two cases, and hardware addresses two separators. Without a format, the padding is
optional and may be of any length.
-/

set_option autoImplicit false

namespace Jadn.Format

section Padding

theorem withoutPadding_eq (cs : List Char) : withoutPadding cs = cs.rdropWhile (· == '=') := rfl

theorem exists_eq_withoutPadding_append (cs : List Char) :
    ∃ n, cs = withoutPadding cs ++ List.replicate n '=' := by
  have pad : cs.rtakeWhile (· == '=') =
      List.replicate (cs.rtakeWhile (· == '=')).length '=' :=
    List.eq_replicate_of_mem fun c member => by simpa using List.mem_rtakeWhile_imp member
  exact ⟨_, by rw [withoutPadding_eq, ← pad, List.rdropWhile_append_rtakeWhile]⟩

theorem withoutPadding_append_replicate {cs : List Char} (plain : ∀ c ∈ cs, c ≠ '=') (n : Nat) :
    withoutPadding (cs ++ List.replicate n '=') = cs := by
  rw [withoutPadding_eq]
  induction n with
  | zero =>
    rw [List.replicate_zero, List.append_nil, List.rdropWhile_eq_self_iff]
    exact fun nonempty => by simpa using plain _ (List.getLast_mem nonempty)
  | succ n ih =>
    rw [List.replicate_succ', ← List.append_assoc, List.rdropWhile_concat_pos (· == '=') _ _ rfl, ih]

theorem decode_withoutPadding_eq_some_iff {cs : List Char} {octets : List UInt8} :
    Base64.decode Base64.urlSafe (withoutPadding cs) = some octets ↔
      ∃ n, cs = Base64.encode Base64.urlSafe octets ++ List.replicate n '=' := by
  rw [Base64.decode_eq_some_iff Base64.unambiguous_urlSafe]
  constructor
  · intro body
    obtain ⟨n, padded⟩ := exists_eq_withoutPadding_append cs
    exact ⟨n, body ▸ padded⟩
  · rintro ⟨n, rfl⟩
    refine withoutPadding_append_replicate (fun c member => ?_) n
    exact Base64.ne_padding_of_mem_encode Base64.unambiguous_urlSafe member

end Padding

/-- A text is decoded to octets exactly if it is an encoding of them: digits of either case, base64
for URLs with any padding, base64 with its own padding, or a hardware address. -/
theorem decodeOctets_eq_ok_iff (text : String) (octets : List UInt8) :
    (decodeOctets (some "x") text = .ok octets ↔ Hex.Spells text.toList octets) ∧
    (decodeOctets none text = .ok octets ↔
      ∃ n, text.toList = Base64.encode Base64.urlSafe octets ++ List.replicate n '=') ∧
    (decodeOctets (some "b") text = .ok octets ↔
      text.toList = Base64.encodePadded Base64.standard octets) ∧
    (decodeOctets (some "eui") text = .ok octets ↔
      (octets.length = 6 ∨ octets.length = 8) ∧ Hex.Joined text.toList octets) := by
  rw [← Hex.decode_eq_some_iff, ← decode_withoutPadding_eq_some_iff,
    ← Base64.decodePadded_eq_some_iff Base64.unambiguous_standard, ← Hex.decodeAddress_eq_some_iff]
  -- Each format reports a text that its decoder refuses, and passes on all others.
  refine ⟨?_, ?_, ?_, ?_⟩ <;> dsimp only [decodeOctets]
  · cases Hex.decode text.toList <;> simp
  · cases Base64.decode Base64.urlSafe (withoutPadding text.toList) <;> simp
  · cases Base64.decodePadded Base64.standard text.toList <;> simp
  · cases Hex.decodeAddress text.toList <;> simp

end Jadn.Format
