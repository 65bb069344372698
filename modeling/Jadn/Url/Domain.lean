import Jadn.Text.Cut
import Jadn.Unicode.Category
import Jadn.Unicode.Direction
import Jadn.Unicode.DomainMapping
import Jadn.Unicode.Normalization
import Jadn.Url.Punycode

/-!
Internationalized domain names.

A name is mapped character by character and brought to its composed normal form; the labels
between its points then have to be valid. A label in its ASCII form is valid when it stands
for a label that the mapping leaves alone. If any label holds characters written from right to
left, every label has to keep to one direction.
-/

namespace Jadn.Url.Domain

/-- ASCII characters that no domain name contains. -/
def isForbidden (c : Char) : Bool :=
  c.toNat ≤ 0x20 || c.toNat == 0x7F || "\"#%/:<>?@[\\]^\x60\x7b|\x7d".toList.contains c

def markSet : CharSet := Unicode.Category.set Unicode.Category.mark

def isMark (c : Char) : Bool := 0x300 ≤ c.toNat && markSet.contains c

def isVirama (c : Char) : Bool := Unicode.combiningClass c == 9

/-- Whether cursive letters join across a place, given the text before it, last character
first, and the text after it. -/
def joinsAcross (before after : List Char) : Bool :=
  let isTransparent (c : Char) : Bool := Unicode.joining c == .transparent
  let joinsLeft (c : Char) : Bool := Unicode.joining c == .left || Unicode.joining c == .dual
  let joinsRight (c : Char) : Bool := Unicode.joining c == .right || Unicode.joining c == .dual
  (before.dropWhile isTransparent).head?.any joinsLeft &&
    (after.dropWhile isTransparent).head?.any joinsRight

/-- Joiners stand after a virama, and the one that separates also where letters would join. -/
def joinersFit (before : List Char) : List Char → Bool
  | [] => true
  | c :: rest =>
    let afterVirama := before.head?.any isVirama
    let fits :=
      if c = '\u200c' then afterVirama || joinsAcross before rest
      else if c = '\u200d' then afterVirama
      else true
    fits && joinersFit (c :: before) rest

/-- No label starts with a combining mark. -/
def isWellFormed (label : List Char) : Bool :=
  !label.head?.any isMark && joinersFit [] label

/-- The label that follows the sign of an ASCII form. -/
def encoded? : List Char → Option (List Char)
  | 'x' :: 'n' :: '-' :: '-' :: rest => some rest
  | _ => none

/-- The label that an ASCII form stands for. -/
def decodeLabel? (text : List Char) : Option (List Char) := do
  if text.getLast? = some '-' ∨ text.isEmpty then none
  else
    let label ← Punycode.decode? text
    let isKept (c : Char) : Bool := Unicode.mapDomainChar? c == some [c]
    if label.all (fun c => isKept c && c != '.' && !isForbidden c) &&
        Unicode.normalized label == label then
      some label
    else none

/-- A valid label, decoded. -/
def label? (text : List Char) : Option (List Char) :=
  match encoded? text with
  | some text => (decodeLabel? text).filter isWellFormed
  | none => if isWellFormed text then some text else none

/-- The first scripts written from right to left follow those of Europe. -/
def isRightToLeft (c : Char) : Bool :=
  0x590 ≤ c.toNat &&
    match Unicode.direction c with
    | .right | .arabicLetter | .arabicNumber => true
    | _ => false

/-- What may stand inside a label of the direction of its first character, and at its end. -/
structure DirectionForm where
  inner : Unicode.Direction → Bool
  last : Unicode.Direction → Bool

def leftForm : DirectionForm where
  inner
    | .left | .europeanNumber | .neutral | .nonspacing => true
    | _ => false
  last
    | .left | .europeanNumber => true
    | _ => false

def rightForm : DirectionForm where
  inner
    | .left | .other => false
    | _ => true
  last
    | .right | .arabicLetter | .arabicNumber | .europeanNumber => true
    | _ => false

/-- Whether a label keeps to the direction of its first character; from right to left it
also keeps to one kind of number. -/
def keepsDirection (label : List Char) : Bool :=
  match label.map Unicode.direction with
  | [] => true
  | first :: rest =>
    let rest := (rest.reverse.dropWhile (· == .nonspacing)).reverse
    let fits (form : DirectionForm) : Bool := rest.all form.inner && rest.getLast?.all form.last
    match first with
    | .left => fits leftForm
    | .right | .arabicLetter =>
      fits rightForm && !(rest.contains .arabicNumber && rest.contains .europeanNumber)
    | _ => false

/-- The labels of a domain name, mapped and normalized; none when the name is not valid. -/
def labels? (name : List Char) : Option (List (List Char)) := do
  let text ← name.mapM Unicode.mapDomainChar?
  let text := Unicode.normalized text.flatten
  if text.any isForbidden then none
  else
    let texts := Text.splitList '.' text
    let labels ← texts.mapM label?
    if labels.any (·.any isRightToLeft) && !labels.all keepsDirection then none
    else some texts

end Jadn.Url.Domain
