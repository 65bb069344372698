import Jadn.Unicode.Property

/-!
Letters and digits of any script.
-/

namespace Jadn.Unicode

def alphabeticSet : CharSet := Property.alphabetic ()

def numericSet : CharSet := Category.set Category.number

def isAlphabetic (c : Char) : Bool :=
  if c.toNat < 0x80 then c.isAlpha else alphabeticSet.contains c

def isAlphanumeric (c : Char) : Bool :=
  if c.toNat < 0x80 then c.isAlphanum else alphabeticSet.contains c || numericSet.contains c

end Jadn.Unicode
