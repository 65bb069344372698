import Jadn.Binary64.Literal
import Jadn.Binary64.Shortest
import Jadn.Error.Parse
import Jadn.Json.Text
import Jadn.Numeral

/-!
Options of types and fields: a list of strings, each a tag character with a payload
(`"\x7b1"` is a least value of one, `"*Target"` a value type), held as one record.

`Options.ofList` reads a list in any order and refuses a tag that is given twice;
`Options.toList` writes field options, then type options, then items with unknown tags.
-/

namespace Jadn

/-- The options with a meaning, in the order in which they are written. -/
inductive Tag where
  | minc
  | maxc
  | tagid
  | dir
  | key
  | link
  | byId
  | vtype
  | ktype
  | enumeration
  | pointer
  | format
  | pattern
  | minf
  | maxf
  | minv
  | maxv
  | unique
  | unorderedUnique
  | unordered
  | extensible
  | defaultValue
  deriving DecidableEq, Inhabited

namespace Tag

def all : List Tag :=
  [minc, maxc, tagid, dir, key, link, byId, vtype, ktype, enumeration, pointer, format, pattern,
    minf, maxf, minv, maxv, unique, unorderedUnique, unordered, extensible, defaultValue]

def char : Tag → Char
  | minc => '['
  | maxc => ']'
  | tagid => '&'
  | dir => '<'
  | key => 'K'
  | link => 'L'
  | byId => '='
  | vtype => '*'
  | ktype => '+'
  | enumeration => '#'
  | pointer => '>'
  | format => '/'
  | pattern => '%'
  | minf => 'y'
  | maxf => 'z'
  | minv => '\x7b'
  | maxv => '\x7d'
  | unique => 'q'
  | unorderedUnique => 's'
  | unordered => 'b'
  | extensible => 'X'
  | defaultValue => '!'

def ofChar? (c : Char) : Option Tag := all.find? (·.char == c)

@[simp] theorem ofChar?_char (t : Tag) : ofChar? t.char = some t := by cases t <;> decide

theorem ofChar?_eq_some_iff {c : Char} {t : Tag} : ofChar? c = some t ↔ c = t.char := by
  constructor
  · intro h
    have := List.find?_some h
    exact (beq_iff_eq.mp this).symm
  · rintro rfl
    exact ofChar?_char t

end Tag

/-- The constraints attached to a type or a field. -/
structure Options where
  /-- Fewest occurrences of a field. -/
  minc : Option Int64 := none
  /-- Most occurrences of a field; zero or less stands for any number. -/
  maxc : Option Int64 := none
  /-- Id of the field that holds the tag of a choice. -/
  tagid : Option Int64 := none
  /-- The name of the field qualifies the fields of its type. -/
  dir : Bool := false
  /-- The field is a primary key. -/
  key : Bool := false
  /-- The field is a link to an instance of its type. -/
  link : Bool := false
  /-- Items and fields are denoted by id and not by name. -/
  byId : Bool := false
  /-- Value type of a collection. -/
  vtype : Option String := none
  /-- Key type of a collection. -/
  ktype : Option String := none
  /-- Type whose fields an enumeration lists. -/
  enumeration : Option String := none
  /-- Type whose field paths an enumeration lists. -/
  pointer : Option String := none
  /-- Keyword of a semantic check. -/
  format : Option String := none
  /-- Regular expression for strings. -/
  pattern : Option String := none
  /-- Least real value. -/
  minf : Option Binary64 := none
  /-- Greatest real value. -/
  maxf : Option Binary64 := none
  /-- Least integer value, length or element count. -/
  minv : Option Int64 := none
  /-- Greatest integer value, length or element count. -/
  maxv : Option Int64 := none
  /-- The elements of a collection are distinct. -/
  unique : Bool := false
  /-- The elements of a collection are distinct and have no order. -/
  unorderedUnique : Bool := false
  /-- The elements of a collection have no order. -/
  unordered : Bool := false
  /-- Undeclared members are allowed. -/
  extensible : Bool := false
  defaultValue : Option String := none
  /-- Items whose tags have no meaning here, as they were given. -/
  unknown : List String := []
  deriving DecidableEq, BEq, Inhabited

/-- Splits a reference into its marker for a derived enumeration and the name referred to. -/
def splitMarker (reference : String) : Bool × String :=
  match reference.toList with
  | '#' :: name => (true, String.ofList name)
  | _ => (false, reference)

/-- The reference to the enumeration derived from a type. -/
def markedReference (name : String) : String := "#" ++ name

/-- Replaces the name in a reference and keeps its marker. -/
def mapReference {m : Type → Type _} [Monad m] (f : String → m String) (reference : String) :
    m String := do
  let (derived, name) := splitMarker reference
  let mapped ← f name
  pure (if derived then markedReference mapped else mapped)

namespace Options

def empty : Options := {}

section Reading

/-- The payload of a flag is empty. -/
def flag (item payload : String) : Except ParseError Bool :=
  if payload.isEmpty then .ok true else .error (.inText .flagWithValue item)

def named (item payload : String) : Except ParseError String :=
  if payload.isEmpty then .error (.inText .optionWithoutValue item)
  else .ok payload

def integer (item payload : String) : Except ParseError Int64 :=
  match Numeral.int64? payload with
  | some n => .ok n
  | none => .error (.inText .optionNotInteger item)

def real (item payload : String) : Except ParseError Binary64 :=
  match Binary64.real? payload with
  | some x => .ok x
  | none => .error (.inText .optionNotReal item)

/-- Adds the option of a tag. -/
def set (o : Options) (item payload : String) : Tag → Except ParseError Options
  | .minc => return { o with minc := some (← integer item payload) }
  | .maxc => return { o with maxc := some (← integer item payload) }
  | .tagid => return { o with tagid := some (← integer item payload) }
  | .dir => return { o with dir := ← flag item payload }
  | .key => return { o with key := ← flag item payload }
  | .link => return { o with link := ← flag item payload }
  | .byId => return { o with byId := ← flag item payload }
  | .vtype => return { o with vtype := some (← named item payload) }
  | .ktype => return { o with ktype := some (← named item payload) }
  | .enumeration => return { o with enumeration := some (← named item payload) }
  | .pointer => return { o with pointer := some (← named item payload) }
  | .format => return { o with format := some (← named item payload) }
  | .pattern => return { o with pattern := some payload }
  | .minf => return { o with minf := some (← real item payload) }
  | .maxf => return { o with maxf := some (← real item payload) }
  | .minv => return { o with minv := some (← integer item payload) }
  | .maxv => return { o with maxv := some (← integer item payload) }
  | .unique => return { o with unique := ← flag item payload }
  | .unorderedUnique => return { o with unorderedUnique := ← flag item payload }
  | .unordered => return { o with unordered := ← flag item payload }
  | .extensible => return { o with extensible := ← flag item payload }
  | .defaultValue => return { o with defaultValue := some payload }

/-- Adds one item to the options read so far, given the tags that occurred already. -/
def add (o : Options) (seen : List Tag) (item : String) :
    Except ParseError (Options × List Tag) :=
  match item.toList with
  | [] => .error (.of .emptyOption)
  | c :: payload =>
    match Tag.ofChar? c with
    | none => .ok ({ o with unknown := o.unknown ++ [item] }, seen)
    | some tag =>
      if tag ∈ seen then .error (.inText (.duplicateOption c) item)
      else do
        let o ← o.set item (String.ofList payload) tag
        .ok (o, tag :: seen)

def addAll (o : Options) (seen : List Tag) : List String → Except ParseError Options
  | [] => .ok o
  | item :: items => do
    let (o, seen) ← o.add seen item
    o.addAll seen items

def ofList (items : List String) : Except ParseError Options := empty.addAll [] items

def ofJson (value : Json) : Except ParseError Options := do
  match value.arr? with
  | none => .error (.of .optionsNotArray)
  | some items =>
    let texts ← items.mapM fun v =>
      match v.str? with
      | some s => .ok s
      | none => .error (.of (.optionNotString v.text))
    ofList texts

end Reading

section Writing

def withTag (tag : Tag) (payload : String) : String := tag.char.toString ++ payload

/-- The item written for a tag, if its option is set. -/
def item? (o : Options) (tag : Tag) : Option String :=
  let ofFlag (b : Bool) : Option String := if b then some (withTag tag "") else none
  let ofInteger (n : Option Int64) : Option String :=
    n.map fun n => withTag tag (toString n.toInt)
  let ofReal (x : Option Binary64) : Option String :=
    x.map fun x => withTag tag (x.toText .plain)
  let ofText (s : Option String) : Option String := s.map (withTag tag)
  match tag with
  | .minc => ofInteger o.minc
  | .maxc => ofInteger o.maxc
  | .tagid => ofInteger o.tagid
  | .dir => ofFlag o.dir
  | .key => ofFlag o.key
  | .link => ofFlag o.link
  | .byId => ofFlag o.byId
  | .vtype => ofText o.vtype
  | .ktype => ofText o.ktype
  | .enumeration => ofText o.enumeration
  | .pointer => ofText o.pointer
  | .format => ofText o.format
  | .pattern => ofText o.pattern
  | .minf => ofReal o.minf
  | .maxf => ofReal o.maxf
  | .minv => ofInteger o.minv
  | .maxv => ofInteger o.maxv
  | .unique => ofFlag o.unique
  | .unorderedUnique => ofFlag o.unorderedUnique
  | .unordered => ofFlag o.unordered
  | .extensible => ofFlag o.extensible
  | .defaultValue => ofText o.defaultValue

def toList (o : Options) : List String := Tag.all.filterMap o.item? ++ o.unknown

def toJson (o : Options) : Json := .strings o.toList

end Writing

def isEmpty (o : Options) : Bool := o == empty

/-- Appends the items that are not there yet. -/
def mergeUnknown (base overlay : List String) : List String :=
  overlay.foldl (fun items u => if u ∈ items then items else items ++ [u]) base

/-- The values of the overlay win; absent ones are inherited. -/
def merge (base overlay : Options) : Options where
  minc := overlay.minc <|> base.minc
  maxc := overlay.maxc <|> base.maxc
  tagid := overlay.tagid <|> base.tagid
  dir := overlay.dir || base.dir
  key := overlay.key || base.key
  link := overlay.link || base.link
  byId := overlay.byId || base.byId
  vtype := overlay.vtype <|> base.vtype
  ktype := overlay.ktype <|> base.ktype
  enumeration := overlay.enumeration <|> base.enumeration
  pointer := overlay.pointer <|> base.pointer
  format := overlay.format <|> base.format
  pattern := overlay.pattern <|> base.pattern
  minf := overlay.minf <|> base.minf
  maxf := overlay.maxf <|> base.maxf
  minv := overlay.minv <|> base.minv
  maxv := overlay.maxv <|> base.maxv
  unique := overlay.unique || base.unique
  unorderedUnique := overlay.unorderedUnique || base.unorderedUnique
  unordered := overlay.unordered || base.unordered
  extensible := overlay.extensible || base.extensible
  defaultValue := overlay.defaultValue <|> base.defaultValue
  unknown := mergeUnknown base.unknown overlay.unknown

/-- The options about the field itself and not about its type. -/
def fieldOptions (o : Options) : Options :=
  { minc := o.minc, maxc := o.maxc, tagid := o.tagid, dir := o.dir, key := o.key,
    link := o.link }

/-- Everything except the field options. -/
def typeOptions (o : Options) : Options :=
  { o with minc := none, maxc := none, tagid := none, dir := false, key := false, link := false }

def hasTypeOptions (o : Options) : Bool := !o.typeOptions.isEmpty

def isUnique (o : Options) : Bool := o.unique || o.unorderedUnique

/-- Replaces the references to types. -/
def mapReferences {m : Type → Type _} [Monad m] (f : String → m String) (o : Options) :
    m Options := do
  let vtype ← o.vtype.mapM (mapReference f)
  let ktype ← o.ktype.mapM (mapReference f)
  let enumeration ← o.enumeration.mapM (mapReference f)
  let pointer ← o.pointer.mapM (mapReference f)
  pure { o with vtype, ktype, enumeration, pointer }

/-- The names of the types referred to. -/
def references (o : Options) : List String :=
  (o.vtype.toList ++ o.ktype.toList ++ o.enumeration.toList ++ o.pointer.toList).map
    fun r => (splitMarker r).2

end Options

end Jadn
