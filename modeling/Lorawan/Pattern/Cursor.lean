import Lorawan.Pattern.Fault
import Lorawan.Text.Blank

/-!
# Going through the text of a pattern

A cursor is the rest of the text with the number of characters before it.  In free layout, white space and
comments between the parts of a pattern mean nothing.
-/

namespace Lorawan.Pattern

/-- The rest of a text, the number of characters before it, and whether the layout is free. -/
structure Cursor where
  place : Nat
  rest : List Char
  free : Bool
  deriving Repr

/-- The number of characters that white space and comments take up, in a comment or not. -/
def blankLength : (comment : Bool) → List Char → Nat
  | _, [] => 0
  | true, c :: cs => blankLength (c ≠ '\n') cs + 1
  | false, c :: cs =>
    if Text.isBlank c then blankLength false cs + 1
    else if c = '#' then blankLength true cs + 1
    else 0

namespace Cursor

/-- The next character. -/
def head? (c : Cursor) : Option Char := c.rest.head?

/-- Whether nothing is left. -/
def atEnd (c : Cursor) : Bool := c.rest.isEmpty

/-- Whether some character comes next. -/
def comes (c : Cursor) (x : Char) : Bool := c.head? = some x

/-- Whether some word comes next. -/
def startsWith (c : Cursor) (word : String) : Bool := word.toList.isPrefixOf c.rest

/-- The cursor after some characters. -/
def skip (c : Cursor) (n : Nat := 1) : Cursor :=
  { c with place := c.place + (c.rest.take n).length, rest := c.rest.drop n }

/-- The cursor after the white space and comments that mean nothing here. -/
def skipBlanks (c : Cursor) : Cursor := if c.free then c.skip (blankLength false c.rest) else c

/-- The cursor after the next character and what means nothing behind it. -/
def step (c : Cursor) : Cursor := c.skip.skipBlanks

/-- The cursor after any white space that comes next. -/
def skipSpaces (c : Cursor) : Cursor := c.skip (c.rest.takeWhile Text.isBlank).length

/-- The empty part at a cursor. -/
def here (c : Cursor) : Span := ⟨c.place, c.place⟩

/-- The next character as a part. -/
def char (c : Cursor) : Span := ⟨c.place, c.place + 1⟩

/-- The part between two cursors. -/
def upTo (c d : Cursor) : Span := ⟨c.place, d.place⟩

/-- The character after the next one.  In free layout that is the first one that is neither white space
nor the beginning of a comment, which is taken for a single character here. -/
def second? (c : Cursor) : Option Char :=
  let rest := c.rest.drop 1
  if c.free then
    let later := rest.dropWhile Text.isBlank
    let later := if later.head? = some '#' then (later.drop 1).dropWhile Text.isBlank else later
    if later.isEmpty then rest.head? else later.head?
  else rest.head?

end Cursor

end Lorawan.Pattern
