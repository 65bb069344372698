import Jadn.Proofs.Expansion.Forms
import Jadn.Proofs.Numeral.Words
import Jadn.Proofs.Validation.Collections

/-!
The two written forms of networks.

A network is an address and the length of its part that is fixed, written as a text with a slash
between them or as an array of both. The text is cut into such an array, so that both forms meet
the same checks of the fields. The range of the length is asked of the text only, since an array is
left to what is said of its fields.
-/

set_option autoImplicit false

namespace Jadn

theorem Text.cutList?_append {separator : Char} {before : List Char} (absent : separator ∉ before)
    (after : List Char) :
    cutList? separator (before ++ separator :: after) = some (before, after) := by
  induction before with
  | nil => simp [cutList?]
  | cons c before ih =>
    simp only [List.mem_cons, not_or] at absent
    simp [cutList?, Ne.symm absent.1, ih absent.2]

namespace Format

def networkText (address : String) (length : Int) : String := address ++ "/" ++ toString length

theorem cut?_networkText {address : String} (whole : '/' ∉ address.toList) (length : Int) :
    Text.cut? '/' (networkText address length) = some (address, toString length) := by
  have text : (networkText address length).toList =
      address.toList ++ '/' :: (toString length).toList := by
    simp [networkText]
  rw [Text.cut?, text, Text.cutList?_append whole]
  simp

section Parts

variable {format : String} {longest : Nat} (network : longestNetwork? format = some longest)
  {address : String} (whole : '/' ∉ address.toList) {length : Int}
include network whole

/-- A text with a length within range is cut into its address and its length. -/
theorem networkParts_of_range (range : 0 ≤ length ∧ length ≤ longest) :
    networkParts format (.str (networkText address length)) =
      .ok (.arr [.str address, .int length]) := by
  have short : longest ≤ 128 := by
    unfold longestNetwork? at network
    split at network <;> cases network <;> decide
  obtain ⟨w, word⟩ : ∃ w, Numeral.word? length = some w :=
    Numeral.Word.exists_word? (Numeral.Word.i64_holds_iff.mpr (by omega))
  have read : Numeral.int64? (toString length) = some w := by
    rw [Numeral.int64?, Numeral.signed?_toString]
    exact word
  have value : w.toInt = length := Numeral.word?_eq_some_iff.mp word
  simp only [networkParts, network, cut?_networkText whole, read, value, range, and_self, if_true,
    Json.ofInt64]

theorem networkParts_of_not_range (outside : ¬ (0 ≤ length ∧ length ≤ longest)) :
    ∃ e, networkParts format (.str (networkText address length)) = .error e := by
  have read : Numeral.int64? (toString length) = Numeral.word? length := by
    rw [Numeral.int64?, Numeral.signed?_toString]
    rfl
  simp only [networkParts, network, cut?_networkText whole, read]
  cases word : Numeral.word? length with
  | none => exact ⟨_, rfl⟩
  | some w =>
    have value : w.toInt = length := Numeral.word?_eq_some_iff.mp word
    simp only [value, outside, if_false]
    exact ⟨_, rfl⟩

end Parts

end Format

namespace Expansion

variable {s : Schema} {d : TypeDefinition}

theorem expandLevels_str (levels : Nat) (t : TypeDefinition) (text : String) :
    expandLevels s levels t (.str text) = .str text := by
  cases levels with
  | zero => rfl
  | succ levels =>
    unfold expandLevels expandLevel
    cases t.kind <;> rfl

theorem expandLevels_int (levels : Nat) {t : TypeDefinition} {n : Int}
    (unlisted : ∀ items, t.kind = .enumerated items → t.options.byId = false →
      ∀ i ∈ items, i.id.toInt ≠ n) : expandLevels s levels t (.int n) = .int n := by
  cases levels with
  | zero => rfl
  | succ levels =>
    unfold expandLevels expandLevel
    cases kind : t.kind with
    | enumerated items =>
      cases mode : t.options.byId with
      | true => rfl
      | false =>
        have none : (Json.int n).int64?.bind (fun id => items.find? (·.id == id)) = none := by
          rw [Option.bind_eq_none_iff]
          intro id word
          have value : id.toInt = n := Numeral.word?_eq_some_iff.mp word
          refine List.find?_eq_none.mpr fun i listed same => ?_
          exact unlisted items kind mode i listed (beq_iff_eq.mp same ▸ value)
        simp only [expandItem, none, Bool.false_eq_true, if_false]
    | _ => rfl

theorem expandField_of_not_arr {inner : Expander} {f : Field} {v : Json} (array : v.arr? = none)
    (kept : ∀ t, s.fieldType? d.name f = some t → inner t v = v) :
    expandField s inner d f v = v := by
  cases type : s.fieldType? d.name f with
  | none => simp [expandField, type]
  | some t => rw [expandField_whole type (.inr array), kept t type]

end Expansion

namespace Schema

open Expansion Validation

variable {s : Schema} {name : String} {d : TypeDefinition}

/-- The length of a network is no item of an enumeration in its place, as which it would be
expanded in an array, but not in a text. -/
def KeepsLength (s : Schema) (d : TypeDefinition) (length : Int) : Prop :=
  ∀ f t items, d.fields[1]? = some f → s.fieldType? d.name f = some t →
    t.kind = .enumerated items → t.options.byId = false → ∀ i ∈ items, i.id.toInt ≠ length

theorem KeepsLength.expandPlaces_eq {length : Int} (keeps : s.KeepsLength d length) (levels : Nat)
    (address : String) :
    expandPlaces (expandField s (expandLevels s levels) d) d.fields [.str address, .int length] =
      [.str address, .int length] := by
  have first : ∀ f, expandField s (expandLevels s levels) d f (.str address) = .str address :=
    fun f => expandField_of_not_arr rfl fun t _ => expandLevels_str levels t address
  have second : ∀ f, d.fields[1]? = some f →
      expandField s (expandLevels s levels) d f (.int length) = .int length :=
    fun f place => expandField_of_not_arr rfl fun t type =>
      expandLevels_int levels fun items => keeps f t items place type
  match fields : d.fields with
  | [] => rfl
  | [f] => simp [expandPlaces, first]
  | f :: g :: rest =>
    have kept := second g (by rw [fields]; rfl)
    simp [expandPlaces, first, kept]

/-- A network as a text is accepted exactly if its length is within range and the array of its
address and its length is accepted, and within range both have the same outcome. -/
theorem validate_network (found : s.lookup? name = some d) (kind : d.baseType = .array)
    {format : String} (own : d.options.format = some format) {longest : Nat}
    (network : (format, longest) ∈ [("ipv4-net", 32), ("ipv6-net", 128)]) {address : String}
    (whole : '/' ∉ address.toList) {length : Int} (keeps : s.KeepsLength d length) :
    (s.isValid name (.str (Format.networkText address length)) = true ↔
        (0 ≤ length ∧ length ≤ longest) ∧
          s.isValid name (.arr [.str address, .int length]) = true) ∧
      (0 ≤ length ∧ length ≤ longest → s.validate name (.str (Format.networkText address length)) =
        s.validate name (.arr [.str address, .int length])) := by
  have known : Format.longestNetwork? format = some longest := by
    rcases List.mem_pair.mp network with same | same <;> cases same <;> rfl
  -- Expansion keeps both forms, so that they meet the checks of the same places.
  have textual : s.validate name (.str (Format.networkText address length)) =
      under name (ofType d (Format.networkParts format (.str (Format.networkText address length)))
        >>= checkPlaces s s.checkInside d d.fields) := by
    rw [validate_of_lookup found, ← expandLevels, expandLevels_str, checkLevel_of_array kind,
      checkArray, placesOf, own]
  have listed : s.validate name (.arr [.str address, .int length]) =
      under name (checkPlaces s s.checkInside d d.fields (.arr [.str address, .int length])) := by
    have kept : expandLevel s (expandLevels s s.limits.maxDepth) d
        (.arr [.str address, .int length]) = .arr [.str address, .int length] := by
      simp only [expandLevel, kind_of_array kind, keeps.expandPlaces_eq]
    rw [validate_of_lookup found, kept, checkLevel_of_array kind, checkArray, placesOf, own]
    simp only [Format.networkParts, known]
    rfl
  have within (range : 0 ≤ length ∧ length ≤ longest) :
      s.validate name (.str (Format.networkText address length)) =
        s.validate name (.arr [.str address, .int length]) := by
    rw [textual, listed, Format.networkParts_of_range known whole range]
    rfl
  refine ⟨⟨?_, ?_⟩, within⟩
  · intro accepted
    have range : 0 ≤ length ∧ length ≤ longest := by
      by_contra outside
      obtain ⟨e, refused⟩ := Format.networkParts_of_not_range known whole outside
      rw [isValid, textual, refused] at accepted
      cases accepted
    exact ⟨range, by rwa [isValid, ← within range]⟩
  · rintro ⟨range, accepted⟩
    rwa [isValid, within range]

def block : TypeDefinition where
  name := "Block"
  options := { format := some "ipv4-net" }
  description := ""
  kind := .array [.new 1 "address" "String", .new 2 "length" "Integer"]

def blocks : Schema where
  info := {}
  types := [block]
  limits := {}
  extensions := []
  fieldTypes := []
  patterns := []

theorem blocks_built : blocks.Built := ⟨by decide, .entered, rfl⟩

theorem blocks_keepsLength (length : Int) : blocks.KeepsLength block length := by
  intro f t items place type kind
  obtain rfl : .new 2 "length" "Integer" = f := Option.some.inj place
  obtain rfl : TypeDefinition.plain .integer "Integer" {} = t := Option.some.inj type
  cases kind

theorem validate_network_block :
    blocks.Built ∧ blocks.lookup? "Block" = some block ∧ block.baseType = .array ∧
      block.options.format = some "ipv4-net" ∧ '/' ∉ "10.0.0.0".toList ∧
      blocks.KeepsLength block 8 ∧
      blocks.validate "Block" (.str "10.0.0.0/8") =
        blocks.validate "Block" (.arr [.str "10.0.0.0", .int 8]) ∧
      blocks.isValid "Block" (.str "10.0.0.0/8") = true := by
  have found : blocks.lookup? "Block" = some block := rfl
  have whole : '/' ∉ "10.0.0.0".toList := by decide
  have forms := validate_network found rfl rfl (List.mem_cons_self ..) whole
    (blocks_keepsLength 8)
  have text : Format.networkText "10.0.0.0" 8 = "10.0.0.0/8" := by decide +kernel
  rw [text] at forms
  refine ⟨blocks_built, found, rfl, rfl, whole, blocks_keepsLength 8, forms.2 (by decide), ?_⟩
  exact forms.1.mpr ⟨by decide, by decide +kernel⟩

/-- Beyond the range only the text is refused. -/
theorem blocks_beyond_range :
    blocks.Built ∧ blocks.lookup? "Block" = some block ∧ block.baseType = .array ∧
      block.options.format = some "ipv4-net" ∧ '/' ∉ "10.0.0.0".toList ∧
      blocks.isValid "Block" (.str (Format.networkText "10.0.0.0" 33)) = false ∧
      blocks.isValid "Block" (.arr [.str "10.0.0.0", .int 33]) = true := by
  refine ⟨blocks_built, rfl, rfl, rfl, by decide, ?_, ?_⟩ <;> decide +kernel

end Schema

end Jadn
