import Jadn.Text.Blank
import Jadn.Text.Cut
import Jadn.Unicode.Category

/-!
Names of hosts and mail addresses, in ASCII and in the letters of any script.
-/

namespace Jadn.Format.Host

/-- The first and last characters of a label, and those between them. -/
structure LabelForm where
  first : Char → Bool
  inner : Char → Bool
  last : Char → Bool

def asciiLabel : LabelForm :=
  ⟨Char.isAlphanum, fun c => c.isAlphanum || c == '-', Char.isAlphanum⟩

def letterSet : CharSet := Unicode.Category.set Unicode.Category.letter

def numberSet : CharSet := Unicode.Category.set Unicode.Category.number

def markSet : CharSet := Unicode.Category.set Unicode.Category.mark

def isLetterOrNumber (c : Char) : Bool := letterSet.contains c || numberSet.contains c

def isWordChar (c : Char) : Bool := isLetterOrNumber c || markSet.contains c

def internationalLabel : LabelForm :=
  ⟨isLetterOrNumber, fun c => isWordChar c || c == '-', isWordChar⟩

def utf8Size (cs : List Char) : Nat := (String.ofList cs).utf8ByteSize

/-- A label begins and ends as its form says and has at most 63 octets. -/
def isLabel (form : LabelForm) (cs : List Char) : Bool :=
  utf8Size cs ≤ 63 &&
    match cs with
    | [] => false
    | [c] => form.first c
    | c :: rest => form.first c && rest.all form.inner && rest.getLast?.any form.last

/-- Labels separated by points, with one more point at the end if need be, and at most 253
octets without it. -/
def isHost (form : LabelForm) (cs : List Char) : Bool :=
  let cs := if cs.getLast? = some '.' then cs.dropLast else cs
  !cs.isEmpty && utf8Size cs ≤ 253 && (Text.splitList '.' cs).all (isLabel form)

/-- The characters of a mailbox besides letters and digits. -/
def mailboxMarks : List Char := ".!#$%&'*+/=?^_\x60\x7b|\x7d~-".toList

def isMailboxChar (c : Char) : Bool := c.isAlphanum || mailboxMarks.contains c

/-- A mailbox at a host, both in ASCII. -/
def isMail (cs : List Char) : Bool :=
  match Text.cutList? '@' cs with
  | some (mailbox, host) =>
    !mailbox.isEmpty && mailbox.all isMailboxChar &&
      (Text.splitList '.' host).all (isLabel asciiLabel)
  | none => false

/-- Text without blanks on both sides of the only at sign. -/
def isInternationalMail (cs : List Char) : Bool :=
  let isPlain (part : List Char) : Bool :=
    !part.isEmpty && part.all fun c => c != '@' && !Text.isBlank c
  match Text.cutList? '@' cs with
  | some (mailbox, host) => isPlain mailbox && isPlain host
  | none => false

end Jadn.Format.Host
