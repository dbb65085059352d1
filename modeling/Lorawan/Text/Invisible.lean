import Lorawan.Text.Property.Binary

/-!
# Characters without a glyph of their own

Control, format, private and unassigned characters, separators other than the space, and marks that
extend the character before them.  A quoted text shows these by number.
-/

namespace Lorawan.Text

/-- The characters without a glyph of their own. -/
def invisibleChars : CharSet :=
  (CharSet.unionAll
    [Category.membersOf Category.separators,
      Category.membersOf [.control, .format, .privateUse, .unassigned],
      BinaryProperty.members .graphemeExtend]).diff (CharSet.single ' ')

/-- Whether a character has no glyph of its own. -/
def isInvisible (c : Char) : Bool :=
  if c.toNat < 0x80 then c.toNat < 0x20 || c.toNat == 0x7f else invisibleChars.contains c

end Lorawan.Text
