import Lorawan.Pattern.Basic
import Lorawan.Pattern.Fault

/-!
# Patterns as they are written

The parts of a pattern as its text shows them, each with the place where it stands.  What the parts mean
depends on the flags that hold there.
-/

namespace Lorawan.Pattern

/-- A character that stands for itself. -/
structure Literal where
  span : Span
  char : Char
  /-- Whether it is written as a byte, with two hexadecimal digits. -/
  isByte : Bool := false
  deriving DecidableEq, Repr

/-- The sets that have a letter. -/
inductive Shorthand where
  | digit
  | blank
  | word
  deriving DecidableEq, Repr

/-- The sets of ASCII characters that have a name. -/
inductive AsciiClass where
  | alnum
  | alpha
  | ascii
  | blank
  | cntrl
  | digit
  | graph
  | lower
  | print
  | punct
  | space
  | upper
  | word
  | xdigit
  deriving DecidableEq, Repr

/-- A set of characters by its name. -/
inductive SetName where
  | shorthand (s : Shorthand)
  | ascii (s : AsciiClass)
  | property (name : String)
  | propertyValue (name value : String)
  deriving DecidableEq, Repr

/-- A way to join two sets. -/
inductive SetOperation where
  | inter
  | diff
  | symmDiff
  deriving DecidableEq, Repr

/-- What is written between brackets. -/
inductive ClassTerm where
  | nothing (span : Span)
  | literal (l : Literal)
  | range (span : Span) (first last : Literal)
  | named (span : Span) (negated : Bool) (name : SetName)
  | bracket (span : Span) (negated : Bool) (inside : ClassTerm)
  | union (span : Span) (items : List ClassTerm)
  | operation (span : Span) (op : SetOperation) (left right : ClassTerm)

/-- Where a term between brackets stands. -/
def ClassTerm.span : ClassTerm → Span
  | nothing s => s
  | literal l => l.span
  | range s _ _ => s
  | named s _ _ => s
  | bracket s _ _ => s
  | union s _ => s
  | operation s _ _ _ => s

/-- A condition on a place, as it is written. -/
inductive Anchor where
  | lineStart
  | lineEnd
  | textStart
  | textEnd
  | word (edge : WordEdge)
  deriving DecidableEq, Repr

/-- A way to read a pattern that can be switched on and off. -/
inductive Flag where
  | ignoreCase
  | multiLine
  | dotAll
  | swapGreed
  | unicode
  | crlf
  | freeLayout
  deriving DecidableEq, Repr

/-- Flags that are switched on or off. -/
abbrev Switches := List (Flag × Bool)

/-- What a group is for: to remember what it fits, under a number, or to hold its parts together, with
some flags switched. -/
inductive GroupKind where
  | capture (number : Nat)
  | plain (switches : Switches)
  deriving DecidableEq, Repr

/-- A pattern as it is written. -/
inductive Term where
  | nothing (span : Span)
  | switches (span : Span) (switches : Switches)
  | literal (l : Literal)
  | dot (span : Span)
  | anchor (span : Span) (anchor : Anchor)
  | named (span : Span) (negated : Bool) (name : SetName)
  | bracket (span : Span) (negated : Bool) (inside : ClassTerm)
  | repetition (span : Span) (part : Term) (least : Nat) (most : Option Nat) (greedy : Bool)
  | group (span : Span) (kind : GroupKind) (part : Term)
  | alternation (span : Span) (parts : List Term)
  | concat (span : Span) (parts : List Term)

/-- Where a term stands. -/
def Term.span : Term → Span
  | nothing s => s
  | switches s _ => s
  | literal l => l.span
  | dot s => s
  | anchor s _ => s
  | named s _ _ => s
  | bracket s _ _ => s
  | repetition s _ _ _ _ => s
  | group s _ _ => s
  | alternation s _ => s
  | concat s _ => s

end Lorawan.Pattern
