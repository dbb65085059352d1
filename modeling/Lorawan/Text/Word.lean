import Lorawan.Text.Property.Binary

/-!
# Word characters and digits

The characters that words are made of: letters, marks, digits, connecting punctuation and joiners; and
the decimal digits of all scripts.
-/

namespace Lorawan.Text

/-- The letters and what counts as letters. -/
def alphabeticChars : CharSet := BinaryProperty.members .alphabetic

/-- The numbers, digits and others. -/
def numericChars : CharSet := Category.membersOf Category.numbers

/-- The decimal digits. -/
def digitChars : CharSet := Category.members .decimalNumber

/-- The white space. -/
def blankChars : CharSet := BinaryProperty.members .whiteSpace

/-- The characters that words are made of. -/
def wordChars : CharSet :=
  CharSet.unionAll
    [alphabeticChars, Category.membersOf Category.marks, digitChars,
      Category.members .connectorPunctuation, BinaryProperty.members .joinControl]

/-- Whether a character belongs to a word. -/
def isWordChar (c : Char) : Bool :=
  if c.toNat < 0x80 then c.isAlphanum || c = '_' else wordChars.contains c

end Lorawan.Text
