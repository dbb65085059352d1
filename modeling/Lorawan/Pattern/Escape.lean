import Lorawan.Hex
import Lorawan.Pattern.Cursor
import Lorawan.Pattern.Term
import Lorawan.Text.Split

/-!
# Escapes

What a backslash makes of the characters behind it: a character, a set of characters or a condition on a
place.
-/

namespace Lorawan.Pattern

/-- Whether a character stands for itself behind a backslash: the ASCII characters do that are neither
letters nor digits nor the signs for the sides of a word. -/
def isEscapable (c : Char) : Bool :=
  c.toNat < 0x80 && !c.isAlphanum && c ≠ '<' && c ≠ '>'

/-- The character with a number. -/
def charOfNumber? (n : Nat) : Option Char :=
  if n < 0xd800 || (0xe000 ≤ n && n < 0x110000) then some (Char.ofNat n) else none

/-- The character with a number in hexadecimal digits. -/
def charOfDigits? (digits : List Char) : Option Char :=
  charOfNumber? ((digits.filterMap Hex.value?).foldl (fun n d => n * 16 + d.val) 0)

/-! ## Characters by number -/

/-- A fixed number of hexadecimal digits. -/
def readDigits : (count : Nat) → (digits : List Char) → Cursor → Reading (List Char × Cursor)
  | 0, digits, c => .ok (digits.reverse, c)
  | count + 1, digits, c =>
    match c.head? with
    | none => failAt .escapeUnexpectedEnd c.here
    | some d =>
      if (Hex.value? d).isSome then readDigits count (d :: digits) c.step
      else failAt .hexDigit c.char

/-- The hexadecimal digits up to a closing brace, behind an opening one. -/
def readBracedDigits (opening : Cursor) :
    (fuel : Nat) → (digits : List Char) → Cursor → Reading (List Char × Cursor)
  | 0, _, c => failAt .escapeUnexpectedEnd (opening.upTo c)
  | fuel + 1, digits, c =>
    match c.head? with
    | none => failAt .escapeUnexpectedEnd (opening.upTo c)
    | some d =>
      if d = '\x7d' then .ok (digits.reverse, c)
      else if (Hex.value? d).isSome then readBracedDigits opening fuel (d :: digits) c.step
      else failAt .hexDigit c.char

/-- A character by its number, behind the letter that announces it: with digits in braces, or with as many
digits as the letter asks for. -/
def readNumbered (start : Cursor) (width : Nat) (c : Cursor) : Reading (Term × Cursor) := do
  if c.comes '\x7b' then
    let (digits, close) ← readBracedDigits c (c.rest.length + 1) [] c.step
    let after := close.step
    if digits.isEmpty then failAt .hexEmpty (c.upTo after)
    else
      match charOfDigits? digits with
      | some x => return (.literal ⟨start.upTo after, x, false⟩, after)
      | none => failAt .hexInvalid ⟨c.place + 1, close.place⟩
  else
    let (digits, after) ← readDigits width [] c
    match charOfDigits? digits with
    | some x => return (.literal ⟨start.upTo after, x, width = 2⟩, after)
    | none => failAt .hexInvalid (c.upTo after)

/-! ## Properties -/

/-- What stands before and behind the first sign of inequality. -/
def splitUnequal? : List Char → Option (List Char × List Char)
  | [] => none
  | '!' :: '=' :: rest => some ([], rest)
  | c :: cs => (splitUnequal? cs).map fun (before, after) => (c :: before, after)

/-- A property by name, or by name and value; all signs between them mean the same. -/
def propertyOfText (cs : List Char) : SetName :=
  match splitUnequal? cs <|> Text.splitFirst? ':' cs <|> Text.splitFirst? '=' cs with
  | some (name, value) => .propertyValue (String.ofList name) (String.ofList value)
  | none => .property (String.ofList cs)

/-- What stands in braces, behind the opening one. -/
def readBraced : (fuel : Nat) → (text : List Char) → Cursor → Reading (List Char × Cursor)
  | 0, _, c => failAt .escapeUnexpectedEnd c.here
  | fuel + 1, text, c =>
    match c.head? with
    | none => failAt .escapeUnexpectedEnd c.here
    | some x => if x = '\x7d' then .ok (text.reverse, c.skip) else readBraced fuel (x :: text) c.step

/-- A set by its property, behind the letter that announces it. -/
def readProperty (start : Cursor) (negated : Bool) (c : Cursor) : Reading (Term × Cursor) := do
  match c.head? with
  | none => failAt .escapeUnexpectedEnd c.here
  | some '\x7b' =>
    let (text, after) ← readBraced (c.rest.length + 1) [] c.step
    return (.named (start.upTo after) negated (propertyOfText text), after)
  | some '\\' => failAt .propertyLetter c.char
  | some x =>
    return (.named (start.upTo c.step) negated (.property x.toString), c.step)

/-! ## Sides of words -/

/-- Whether a character may stand in the name of a side of a word. -/
def isEdgeChar (c : Char) : Bool := c.isAlpha || c = '-'

/-- The sides of a word that have a name. -/
def edgeNamed? (name : String) : Option WordEdge :=
  match name with
  | "start" => some .start
  | "end" => some .stop
  | "start-half" => some .startHalf
  | "end-half" => some .stopHalf
  | _ => none

/-- The name of a side of a word, as far as it goes. -/
def readEdgeName : (fuel : Nat) → (name : List Char) → Cursor → List Char × Cursor
  | 0, name, c => (name.reverse, c)
  | fuel + 1, name, c =>
    match c.head? with
    | none => (name.reverse, c)
    | some x =>
      if isEdgeChar x then readEdgeName fuel (x :: name) c.step else (name.reverse, c)

/-- A side of a word in braces, if that is what the braces hold; they may also hold a count. -/
def readEdge? (start c : Cursor) : Reading (Option (WordEdge × Cursor)) :=
  let inside := c.step
  match inside.head? with
  | none => failAt .wordEdgeUnexpectedEnd (start.upTo inside)
  | some x =>
    if !isEdgeChar x then .ok none
    else
      let (name, close) := readEdgeName (c.rest.length + 1) [] inside
      if !close.comes '\x7d' then failAt .wordEdgeUnclosed (c.upTo close)
      else
        match edgeNamed? (String.ofList name) with
        | some edge => .ok (some (edge, close.skip))
        | none => failAt .wordEdgeUnrecognized (inside.upTo close)

/-! ## All escapes -/

/-- The characters that have a letter of their own. -/
def charOfLetter? (letter : Char) : Option Char :=
  match letter with
  | 'a' => some '\x07'
  | 'f' => some '\x0c'
  | 't' => some '\t'
  | 'n' => some '\n'
  | 'r' => some '\r'
  | 'v' => some '\x0b'
  | _ => none

/-- The sets that have a letter, and whether it stands for all other characters. -/
def shorthandOfLetter? (letter : Char) : Option (Shorthand × Bool) :=
  match letter with
  | 'd' => some (.digit, false)
  | 'D' => some (.digit, true)
  | 's' => some (.blank, false)
  | 'S' => some (.blank, true)
  | 'w' => some (.word, false)
  | 'W' => some (.word, true)
  | _ => none

/-- The conditions on a place that have a sign, apart from the sides of words with a name. -/
def anchorOfSign? (sign : Char) : Option Anchor :=
  match sign with
  | 'A' => some .textStart
  | 'z' => some .textEnd
  | 'b' => some (.word .either)
  | 'B' => some (.word .neither)
  | '<' => some (.word .start)
  | '>' => some (.word .stop)
  | _ => none

/-- An escape, from its backslash on. -/
def readEscape (start : Cursor) : Reading (Term × Cursor) := do
  let c := start.skip
  match c.head? with
  | none => failAt .escapeUnexpectedEnd (start.upTo c)
  | some x =>
    let after := c.skip
    let span := start.upTo after
    if x.isDigit then failAt .backreference span
    else if x = 'x' || x = 'u' || x = 'U' then
      let digits := c.step
      if digits.atEnd then failAt .escapeUnexpectedEnd digits.here
      else readNumbered start (if x = 'x' then 2 else if x = 'u' then 4 else 8) digits
    else if x = 'p' || x = 'P' then readProperty start (x = 'P') c.step
    else if isEscapable x then return (.literal ⟨span, x, false⟩, after)
    else
      match shorthandOfLetter? x, charOfLetter? x, anchorOfSign? x with
      | some (s, negated), _, _ => return (.named span negated (.shorthand s), after)
      | none, some y, _ => return (.literal ⟨span, y, false⟩, after)
      | none, none, some anchor =>
        if x = 'b' && after.comes '\x7b' then
          match ← readEdge? start after with
          | some (edge, stop) => return (.anchor (start.upTo stop) (.word edge), stop)
          | none => return (.anchor span anchor, after)
        else return (.anchor span anchor, after)
      | none, none, none => failAt .escapeUnrecognized span

end Lorawan.Pattern
