import Lorawan.Text.Word

/-!
# Patterns

Regular expressions over characters, with assertions about the place between two characters.  Whether a
text has a part that fits a pattern is decided in one pass: after each character there is a list of
sequences of patterns that the rest would have to fit.  Counts stay numbers in this, so that a repetition
is never written out.
-/

namespace Lorawan

namespace Pattern

/-- A side of a word. -/
inductive WordEdge where
  /-- A word begins or ends here. -/
  | either
  /-- No word begins or ends here. -/
  | neither
  | start
  | stop
  /-- No word ends here, whatever begins. -/
  | startHalf
  /-- No word begins here, whatever ends. -/
  | stopHalf
  deriving DecidableEq, Repr

namespace WordEdge

/-- Whether a word has such a side where it is told on either hand whether a word is there. -/
def holds (edge : WordEdge) (before after : Bool) : Bool :=
  match edge with
  | either => before != after
  | neither => before == after
  | start => !before && after
  | stop => before && !after
  | startHalf => !before
  | stopHalf => !after

end WordEdge

/-- A condition on the place between two characters. -/
inductive Assertion where
  | textStart
  | textEnd
  /-- The start of a line, where lines end with a line feed alone or also with a carriage return. -/
  | lineStart (crlf : Bool)
  /-- The end of a line, where lines end with a line feed alone or also with a carriage return. -/
  | lineEnd (crlf : Bool)
  /-- A side of a word, of ASCII characters or of any. -/
  | word (edge : WordEdge) (ascii : Bool)
  deriving DecidableEq, Repr

namespace Assertion

/-- Whether a condition holds between two characters; at the ends of the text one is missing. -/
def holds (a : Assertion) (before after : Option Char) : Bool :=
  match a with
  | textStart => before.isNone
  | textEnd => after.isNone
  | lineStart crlf =>
    match before with
    | none => true
    | some '\n' => true
    | some '\r' => crlf && after ≠ some '\n'
    | some _ => false
  | lineEnd crlf =>
    match after with
    | none => true
    | some '\n' => !(crlf && before = some '\r')
    | some '\r' => crlf
    | some _ => false
  | word edge ascii =>
    let inWord (c : Char) : Bool := Text.isWordChar c && !(ascii && 0x80 ≤ c.toNat)
    edge.holds (before.any inWord) (after.any inWord)

end Assertion

end Pattern

/-- A pattern. -/
inductive Pattern where
  | empty
  /-- Some characters in a row. -/
  | literal (cs : List Char)
  /-- One character out of a set. -/
  | set (s : Text.CharSet)
  | assertion (a : Pattern.Assertion)
  /-- Something so many times in a row, preferably often or preferably not. -/
  | repetition (part : Pattern) (least : Nat) (most : Option Nat) (greedy : Bool)
  /-- A group with a number. -/
  | group (number : Nat) (part : Pattern)
  /-- Patterns one after another. -/
  | concat (parts : List Pattern)
  /-- One of several patterns. -/
  | alternation (parts : List Pattern)
  deriving Inhabited

namespace Pattern

mutual

/-- Whether two patterns are written alike. -/
def same : Pattern → Pattern → Bool
  | empty, empty => true
  | literal cs, literal ds => cs == ds
  | set s, set t => s == t
  | assertion a, assertion b => a == b
  | repetition p least most greedy, repetition q least' most' greedy' =>
    least == least' && most == most' && greedy == greedy' && same p q
  | group m p, group n q => m == n && same p q
  | concat ps, concat qs => sameAll ps qs
  | alternation ps, alternation qs => sameAll ps qs
  | _, _ => false

/-- Whether two lists of patterns are written alike. -/
def sameAll : List Pattern → List Pattern → Bool
  | [], [] => true
  | p :: ps, q :: qs => same p q && sameAll ps qs
  | _, _ => false

end

instance : BEq Pattern := ⟨same⟩

mutual

/-- Whether a pattern fits the empty text between two characters. -/
def fitsEmpty (before after : Option Char) : Pattern → Bool
  | empty => true
  | literal cs => cs.isEmpty
  | set _ => false
  | assertion a => a.holds before after
  | repetition p least _ _ => least == 0 || p.fitsEmpty before after
  | group _ p => p.fitsEmpty before after
  | concat ps => allFitEmpty before after ps
  | alternation ps => anyFitsEmpty before after ps

/-- Whether a sequence of patterns fits the empty text. -/
def allFitEmpty (before after : Option Char) : List Pattern → Bool
  | [] => true
  | p :: ps => p.fitsEmpty before after && allFitEmpty before after ps

/-- Whether one of some patterns fits the empty text. -/
def anyFitsEmpty (before after : Option Char) : List Pattern → Bool
  | [] => false
  | p :: ps => p.fitsEmpty before after || anyFitsEmpty before after ps

end

/-- What is left of a repetition behind one of its rounds, as a sequence.  If earlier rounds may have fitted
the empty text, any number of those asked for are done. -/
def restOfRepetition (p : Pattern) (least : Nat) (most : Option Nat) (greedy emptyRounds : Bool) :
    List Pattern :=
  let most := most.map (· - 1)
  if most = some 0 then []
  else [repetition p (if emptyRounds then 0 else least - 1) most greedy]

mutual

/-- What must follow a character for a pattern to fit from it on, each possibility as a sequence. -/
def afterChar (before : Option Char) (c : Char) : Pattern → List (List Pattern)
  | empty | assertion _ | literal [] => []
  | literal (x :: xs) => if x = c then [if xs.isEmpty then [] else [literal xs]] else []
  | set s => if s.contains c then [[]] else []
  | repetition p least most greedy =>
    if most = some 0 then []
    else
      let rest := restOfRepetition p least most greedy (p.fitsEmpty before (some c))
      (p.afterChar before c).map (· ++ rest)
  | group _ p => p.afterChar before c
  | concat ps => sequenceAfterChar before c ps
  | alternation ps => anyAfterChar before c ps

/-- What must follow a character for a sequence of patterns to fit from it on. -/
def sequenceAfterChar (before : Option Char) (c : Char) : List Pattern → List (List Pattern)
  | [] => []
  | p :: ps =>
    (p.afterChar before c).map (· ++ ps)
      ++ if p.fitsEmpty before (some c) then sequenceAfterChar before c ps else []

/-- What must follow a character for one of some patterns to fit from it on. -/
def anyAfterChar (before : Option Char) (c : Char) : List Pattern → List (List Pattern)
  | [] => []
  | p :: ps => p.afterChar before c ++ anyAfterChar before c ps

end

/-- Whether the pattern fits a part of a text: some possibility is fulfilled here, or after the next
character, where the pattern may also begin anew. -/
def search (p : Pattern) (before : Option Char) (possible : List (List Pattern)) : List Char → Bool
  | [] => ([p] :: possible).any (allFitEmpty before none)
  | c :: rest =>
    ([p] :: possible).any (allFitEmpty before (some c))
      || p.search (some c) (([p] :: possible).flatMap (sequenceAfterChar before c)).eraseDups rest

/-- Whether a text has a part that fits the pattern. -/
def matchesIn (p : Pattern) (s : String) : Bool := p.search none [] s.toList

end Pattern

end Lorawan
