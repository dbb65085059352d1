import Lorawan.Text.Split

/-!
# What is wrong with a pattern

The faults that the text of a pattern may have, where each of them is, and how it is shown: the text with
marks below the part that is wrong.
-/

namespace Lorawan.Pattern

/-- A part of the text of a pattern: the number of characters before it and before its end. -/
structure Span where
  start : Nat
  stop : Nat
  deriving DecidableEq, Repr

/-- How deep the parts of a pattern may lie in each other. -/
def deepestNesting : Nat := 250

/-- What is wrong with the text of a pattern. -/
inductive Fault where
  | classEscapeInvalid
  | classRangeInvalid
  | classRangeLiteral
  | classUnclosed
  | countEmpty
  | countRange
  | countUnclosed
  | decimalInvalid
  | escapeUnexpectedEnd
  | escapeUnrecognized
  | hexEmpty
  | hexInvalid
  | hexDigit
  | flagDangling
  | flagDuplicate
  | flagRepeatedNegation
  | flagUnexpectedEnd
  | flagUnrecognized
  | groupNameDuplicate
  | groupNameEmpty
  | groupNameInvalid
  | groupNameUnexpectedEnd
  | groupUnclosed
  | groupUnopened
  | nestedTooDeep
  | repetitionMissing
  | wordEdgeUnclosed
  | wordEdgeUnrecognized
  | wordEdgeUnexpectedEnd
  | propertyLetter
  | propertyUnknown
  | propertyValueUnknown
  | backreference
  | lookAround
  | charactersBeyondAscii
  | invalidUtf8
  deriving DecidableEq, Repr

/-- The wording of a fault. -/
def Fault.message : Fault → String
  | classEscapeInvalid => "invalid escape sequence found in character class"
  | classRangeInvalid => "invalid character class range, the start must be <= the end"
  | classRangeLiteral => "invalid range boundary, must be a literal"
  | classUnclosed => "unclosed character class"
  | countEmpty => "repetition quantifier expects a valid decimal"
  | countRange => "invalid repetition count range, the start must be <= the end"
  | countUnclosed => "unclosed counted repetition"
  | decimalInvalid => "decimal literal invalid"
  | escapeUnexpectedEnd => "incomplete escape sequence, reached end of pattern prematurely"
  | escapeUnrecognized => "unrecognized escape sequence"
  | hexEmpty => "hexadecimal literal empty"
  | hexInvalid => "hexadecimal literal is not a Unicode scalar value"
  | hexDigit => "invalid hexadecimal digit"
  | flagDangling => "dangling flag negation operator"
  | flagDuplicate => "duplicate flag"
  | flagRepeatedNegation => "flag negation operator repeated"
  | flagUnexpectedEnd => "expected flag but got end of regex"
  | flagUnrecognized => "unrecognized flag"
  | groupNameDuplicate => "duplicate capture group name"
  | groupNameEmpty => "empty capture group name"
  | groupNameInvalid => "invalid capture group character"
  | groupNameUnexpectedEnd => "unclosed capture group name"
  | groupUnclosed => "unclosed group"
  | groupUnopened => "unopened group"
  | nestedTooDeep =>
    s!"exceed the maximum number of nested parentheses/brackets ({deepestNesting})"
  | repetitionMissing => "repetition operator missing expression"
  | wordEdgeUnclosed =>
    "special word boundary assertion is either unclosed or contains an invalid character"
  | wordEdgeUnrecognized =>
    "unrecognized special word boundary assertion, valid choices are: "
      ++ "start, end, start-half or end-half"
  | wordEdgeUnexpectedEnd =>
    "found either the beginning of a special word boundary or a bounded repetition on a \\b "
      ++ "with an opening brace, but no closing brace"
  | propertyLetter => "invalid Unicode character class"
  | propertyUnknown => "Unicode property not found"
  | propertyValueUnknown => "Unicode property value not found"
  | backreference => "backreferences are not supported"
  | lookAround => "look-around, including look-ahead and look-behind, is not supported"
  | charactersBeyondAscii => "Unicode not allowed here"
  | invalidUtf8 => "pattern can match invalid UTF-8"

/-- A fault, where it is, and the earlier part that makes it one, if there is such a part. -/
structure Flaw where
  fault : Fault
  span : Span
  earlier : Option Span := none
  deriving DecidableEq, Repr

/-! ## Lines and columns -/

/-- A place in a text: the number of lines before it, and of characters before it on its line. -/
structure Place where
  line : Nat
  column : Nat
  deriving DecidableEq, Repr

/-- The place behind some number of characters. -/
def Place.of (pattern : List Char) (length : Nat) : Place :=
  let before := pattern.take length
  ⟨before.count '\n', (before.reverse.takeWhile (· ≠ '\n')).length⟩

/-- The lines of a text without their ends; a line feed at the very end begins no line. -/
def shownLines (pattern : List Char) : List (List Char) :=
  let pieces := Text.split '\n' pattern
  let ended := pieces.dropLast.map fun line =>
    if line.getLast? = some '\r' then line.dropLast else line
  ended ++ (pieces.getLast?.toList.filter fun line => !line.isEmpty)

/-- The marks below a line, from a column on: each part has one mark a character, and one at least. -/
def marks (column : Nat) : List (Nat × Nat) → List Char
  | [] => []
  | (start, stop) :: rest =>
    let length := max 1 (stop - start)
    List.replicate (start - column) ' ' ++ List.replicate length '^'
      ++ marks (max column start + length) rest

/-- A text on the right of a field. -/
def padLeft (width : Nat) (s : String) : String :=
  String.ofList (List.replicate (width - s.length) ' ') ++ s

namespace Flaw

/-- The parts that a flaw is about, in order. -/
def parts (f : Flaw) : List Span :=
  match f.earlier with
  | none => [f.span]
  | some e =>
    if e.start < f.span.start || (e.start = f.span.start && e.stop ≤ f.span.stop) then [e, f.span]
    else [f.span, e]

/-- The lines of the pattern, with numbers if there are several, and with marks below the parts that lie
within one line. -/
def notes (f : Flaw) (pattern : List Char) : String :=
  let lines := shownLines pattern
  let count := lines.length + if pattern.getLast? = some '\n' then 1 else 0
  let width := if count ≤ 1 then 0 else (toString count).length
  let places := f.parts.map fun s => (Place.of pattern s.start, Place.of pattern s.stop)
  String.join (lines.zipIdx.map fun (line, i) =>
    let number := if width = 0 then "    " else padLeft width (toString (i + 1)) ++ ": "
    let here := places.filter fun (a, b) => a.line = i && b.line = i
    let marked :=
      if here.isEmpty then ""
      else
        String.ofList (List.replicate number.length ' '
          ++ marks 0 (here.map fun (a, b) => (a.column, b.column))) ++ "\n"
    number ++ String.ofList line ++ "\n" ++ marked)

/-- The parts that go over several lines, in words. -/
def longParts (f : Flaw) (pattern : List Char) : List String :=
  f.parts.filterMap fun s =>
    let a := Place.of pattern s.start
    let b := Place.of pattern s.stop
    if a.line = b.line then none
    else
      let first := s!"on line {a.line + 1} (column {a.column + 1})"
      some s!"{first} through line {b.line + 1} (column {b.column})"

/-- How a flaw is shown. -/
def message (f : Flaw) (pattern : String) : String :=
  let cs := pattern.toList
  let body :=
    if cs.contains '\n' then
      let divider := String.ofList (List.replicate 79 '~') ++ "\n"
      divider ++ f.notes cs ++ divider ++ String.join ((f.longParts cs).map (· ++ "\n"))
    else f.notes cs
  "regex parse error:\n" ++ body ++ "error: " ++ f.fault.message

end Flaw

/-- A step of reading a pattern. -/
abbrev Reading := Except Flaw

/-- Fails with a fault in some part. -/
def failAt (fault : Fault) (span : Span) : Reading α := .error ⟨fault, span, none⟩

end Lorawan.Pattern
