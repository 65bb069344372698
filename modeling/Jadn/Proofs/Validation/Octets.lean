import Jadn.Proofs.Expansion.Forms

/-!
The two written forms of binary values.

A binary value is a text that a format decodes, or an array of octets. The length that a format
implies is checked for both forms by one function, and a text that the format decodes never fails
that check: the decoders of addresses give as many octets as the format asks for. So the text and
the array of its octets have the same outcome, whatever the bounds on their number.
-/

set_option autoImplicit false

namespace Jadn

namespace Format

namespace Address

theorem length_of_shortAddress? {cs rest : List Char} {octets : List Nat}
    (read : shortAddress? cs = some (octets, rest)) : octets.length = 4 := by
  simp only [shortAddress?, Option.bind_eq_bind, Option.bind_eq_some_iff, Option.some.injEq,
    Prod.mk.injEq] at read
  obtain ⟨_, -, _, -, _, -, _, -, _, -, _, -, _, -, rfl, -⟩ := read
  rfl

/-- A short address, which stands for two groups, is read only where there is room for two. -/
theorem length_groups_le (limit : Nat) (isFirst : Bool) (cs : List Char) :
    (groups limit isFirst cs).1.length ≤ limit := by
  induction limit generalizing isFirst cs with
  | zero => simp [groups]
  | succ limit ih =>
    unfold groups
    split
    · simp
    · split
      · next short =>
        split at short
        · simpa using ‹1 ≤ limit›
        · cases short
      · split
        · simp
        · simpa using ih false _

theorem length_of_longGroups? {cs : List Char} {gs : List Nat}
    (read : longGroups? cs = some gs) : gs.length = 8 := by
  have head := length_groups_le 8 true cs
  unfold longGroups? at read
  dsimp only at read
  split at read
  · next full =>
    split at read
    · cases read
      exact full
    · cases read
  · split at read
    · cases read
    · split at read
      · next rest _ =>
        have tail := length_groups_le (7 - (groups 8 true cs).1.length) true rest
        split at read
        · cases read
          simp only [List.length_append, List.length_replicate]
          omega
        · cases read
      · cases read

theorem length_of_ipv4? {text : String} {octets : List UInt8} (read : ipv4? text = some octets) :
    octets.length = 4 := by
  unfold ipv4? at read
  split at read
  · next short =>
    cases read
    rw [List.length_map]
    exact length_of_shortAddress? short
  · cases read

theorem length_of_ipv6? {text : String} {octets : List UInt8} (read : ipv6? text = some octets) :
    octets.length = 16 := by
  obtain ⟨gs, long, rfl⟩ := Option.map_eq_some_iff.mp read
  have count := length_of_longGroups? long
  simp [List.length_flatMap, count]

end Address

theorem Hex.length_of_decodeAddress {text : List Char} {octets : List UInt8}
    (read : decodeAddress text = some octets) : octets.length = 6 ∨ octets.length = 8 := by
  simpa using (Option.filter_eq_some_iff.mp read).2

theorem checkLength_of_decodeOctets {format text : String} {octets : List UInt8}
    (decoded : decodeOctets (some format) text = .ok octets) :
    checkLength format octets.length = .ok () := by
  have passes : ∀ {name : String} {accepts : Nat → Bool}, acceptedLength? name = some accepts →
      accepts octets.length = true → checkLength name octets.length = .ok () := by
    intro name accepts known accepted
    rw [checkLength, known]
    exact if_pos accepted
  unfold decodeOctets at decoded
  dsimp only at decoded
  split at decoded
  case h_1 none => cases none
  case h_7 => cases decoded
  all_goals
    rename_i same
    obtain rfl := Option.some.inj same
    split at decoded <;> cases decoded
    rename_i read
  · exact passes rfl rfl
  · exact passes rfl rfl
  · exact passes rfl (by simpa using Hex.length_of_decodeAddress read)
  · exact passes rfl (by simpa using Address.length_of_ipv4? read)
  · exact passes rfl (by simpa using Address.length_of_ipv6? read)

end Format

namespace Validation

variable {s : Schema} {inner : Checker} {d : TypeDefinition}

def octetArray (octets : List UInt8) : Json := .arr (octets.map fun o => .int o.toNat)

theorem octets_octetArray (os : List UInt8) : octets d (octetArray os) = .ok os := by
  have word : ∀ o : UInt8, (Json.int o.toNat).uint64? = some o.toUInt64 := by
    intro o
    have bound : (o.toNat : Int) < UInt64.size := by
      have := o.toNat_lt
      simp only [UInt64.size]
      omega
    simp only [Json.uint64?, bound, Int.natCast_nonneg, true_and, if_true, Int.toNat_natCast,
      UInt64.ofNat_uInt8ToNat]
  have octet : ∀ o : UInt8,
      ((Json.int o.toNat).uint64?.filter (· ≤ 255)).map UInt64.toUInt8 = some o := by
    intro o
    have small : o.toUInt64 ≤ 255 := by
      have := o.toNat_lt
      rw [UInt64.le_iff_toNat_le, UInt8.toNat_toUInt64]
      exact Nat.le_of_lt_succ this
    rw [word, Option.filter_some, if_pos (by simpa using small)]
    simp
  have each : (os.map fun o => Json.int o.toNat).mapM (fun item =>
      (item.uint64?.filter (· ≤ 255)).map UInt64.toUInt8) = some os := by
    induction os with
    | nil => rfl
    | cons o os ih =>
      rw [List.map_cons, List.mapM_cons, octet, ih]
      rfl
  simp only [octets, octetArray, each]

/-- A text is checked like the array of its octets, errors included. -/
theorem checkBinary_octetArray {text : String} {os : List UInt8}
    (decoded : Format.decodeOctets d.options.format text = .ok os) :
    checkBinary s d (octetArray os) = checkBinary s d (.str text) := by
  have read : octets d (.str text) = .ok os := by
    rw [octets, decoded]
    rfl
  rw [checkBinary, checkBinary, octets_octetArray, read]

end Validation

namespace Schema

open Validation

variable {s : Schema} {d : TypeDefinition}

/-- A text that the format of a binary type decodes has a length that the format accepts, and the
same outcome as the array of its octets: the same error, if there is one. -/
theorem validate_octets (kind : d.kind = .binary) {text : String} {os : List UInt8}
    (decoded : Format.decodeOctets d.options.format text = .ok os) :
    (∀ format, d.options.format = some format → Format.checkLength format os.length = .ok ()) ∧
      (∀ depth, s.check d (.str text) depth = s.check d (octetArray os) depth) ∧
      ∀ name, s.lookup? name = some d →
        s.validate name (.str text) = s.validate name (octetArray os) := by
  have level : ∀ inner : Checker,
      checkLevel s inner d (.str text) = checkLevel s inner d (octetArray os) := by
    intro inner
    simp only [checkLevel, kind, checkBinary_octetArray decoded]
  refine ⟨fun format own => ?_, fun depth => ?_, fun name found => ?_⟩
  · exact Format.checkLength_of_decodeOctets (own ▸ decoded)
  · unfold check
    cases s.limits.maxDepth + 1 - depth with
    | zero => rfl
    | succ levels => exact level _
  · have verbose : ∀ v, Expansion.expandLevel s (Expansion.expandLevels s s.limits.maxDepth) d v =
        v := by
      intro v
      simp only [Expansion.expandLevel, kind]
    rw [validate_of_lookup found, validate_of_lookup found, verbose, verbose, level]

def card : TypeDefinition where
  name := "Card"
  options := { format := some "eui", minv := some 6, maxv := some 6 }
  description := ""
  kind := .binary

def cards : Schema where
  info := {}
  types := [card]
  limits := {}
  extensions := []
  fieldTypes := []
  patterns := []

/-- An address of eight octets is one for the format, and refused in both forms alike. -/
theorem validate_octets_card :
    card.kind = .binary ∧ cards.lookup? "Card" = some card ∧
      Format.decodeOctets card.options.format "00-11-22-33-44-55-66-77" =
        .ok [0x00, 0x11, 0x22, 0x33, 0x44, 0x55, 0x66, 0x77] ∧
      Format.checkLength "eui" 8 = .ok () ∧
      cards.validate "Card" (.str "00-11-22-33-44-55-66-77") =
        cards.validate "Card" (octetArray [0x00, 0x11, 0x22, 0x33, 0x44, 0x55, 0x66, 0x77]) ∧
      cards.isValid "Card" (.str "00-11-22-33-44-55-66-77") = false := by
  have found : cards.lookup? "Card" = some card := rfl
  have decoded : Format.decodeOctets card.options.format "00-11-22-33-44-55-66-77" =
      .ok [0x00, 0x11, 0x22, 0x33, 0x44, 0x55, 0x66, 0x77] := rfl
  obtain ⟨length, -, same⟩ := validate_octets (s := cards) rfl decoded
  exact ⟨rfl, found, decoded, length "eui" rfl, same "Card" found, rfl⟩

end Schema

end Jadn
