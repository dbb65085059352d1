import Lorawan.Pattern.Normal
import Lorawan.Pattern.Term
import Lorawan.Text.Folding
import Lorawan.Text.Property

/-!
# What written patterns mean

A written pattern means a pattern under the flags that hold where each part stands.  A group ends what its
flags switch; any other switch goes on to the end of the group it stands in.  Without the flag for all
characters, a pattern is about ASCII, and may not fit bytes that are no text.
-/

namespace Lorawan.Pattern

open Text (CharSet)

/-- How a part of a pattern is to be understood. -/
structure Flags where
  ignoreCase : Bool := false
  multiLine : Bool := false
  dotAll : Bool := false
  swapGreed : Bool := false
  unicode : Bool := true
  crlf : Bool := false
  deriving DecidableEq, Repr

namespace Flags

/-- The flags with one of them switched; the layout matters to reading only. -/
def switch (flags : Flags) (change : Flag × Bool) : Flags :=
  match change with
  | (.ignoreCase, on) => { flags with ignoreCase := on }
  | (.multiLine, on) => { flags with multiLine := on }
  | (.dotAll, on) => { flags with dotAll := on }
  | (.swapGreed, on) => { flags with swapGreed := on }
  | (.unicode, on) => { flags with unicode := on }
  | (.crlf, on) => { flags with crlf := on }
  | (.freeLayout, _) => flags

/-- The flags with some of them switched. -/
def switchAll (flags : Flags) (switches : Switches) : Flags := switches.foldl switch flags

end Flags

/-! ## Sets -/

/-- The ASCII characters. -/
def asciiChars : CharSet := CharSet.range '\x00' '\x7f'

/-- The characters of a named set of ASCII characters. -/
def AsciiClass.members : AsciiClass → CharSet
  | alnum => CharSet.ofText "30-39 41-5A 61-7A"
  | alpha => CharSet.ofText "41-5A 61-7A"
  | ascii => asciiChars
  | blank => CharSet.ofText "9 20"
  | cntrl => CharSet.ofText "0-1F 7F"
  | digit => CharSet.ofText "30-39"
  | graph => CharSet.ofText "21-7E"
  | lower => CharSet.ofText "61-7A"
  | print => CharSet.ofText "20-7E"
  | punct => CharSet.ofText "21-2F 3A-40 5B-60 7B-7E"
  | space => CharSet.ofText "9-D 20"
  | upper => CharSet.ofText "41-5A"
  | word => CharSet.ofText "30-39 41-5A 5F 61-7A"
  | xdigit => CharSet.ofText "30-39 41-46 61-66"

/-- The characters of a set with a letter. -/
def Shorthand.members (unicode : Bool) : Shorthand → CharSet
  | digit => if unicode then Text.digitChars else AsciiClass.digit.members
  | blank => if unicode then Text.blankChars else AsciiClass.space.members
  | word => if unicode then Text.wordChars else AsciiClass.word.members

namespace Flags

/-- A set with the letters in the other case, if case is ignored. -/
def fold (flags : Flags) (s : CharSet) : CharSet :=
  if !flags.ignoreCase then s
  else if flags.unicode then s.foldCase
  else s.foldCase.inter asciiChars

/-- A set or all other characters, which go beyond ASCII. -/
def negate (flags : Flags) (span : Span) (negated : Bool) (s : CharSet) : Reading CharSet :=
  if !negated then .ok s
  else if flags.unicode then .ok s.complement
  else failAt .invalidUtf8 span

/-- The characters with a property. -/
def property (flags : Flags) (span : Span) (s : Except Text.PropertyFault CharSet) :
    Reading CharSet :=
  if !flags.unicode then failAt .charactersBeyondAscii span
  else
    match s with
    | .ok s => .ok s
    | .error .unknownProperty => failAt .propertyUnknown span
    | .error .unknownValue => failAt .propertyValueUnknown span

/-- The characters of a named set, or all others.  A set with a letter is the same in either case. -/
def named (flags : Flags) (span : Span) (negated : Bool) (name : SetName) : Reading CharSet := do
  match name with
  | .shorthand s => flags.negate span negated (s.members flags.unicode)
  | .ascii s => flags.negate span negated (flags.fold s.members)
  | .property name =>
    let s ← flags.property span (Text.Property.charactersNamed name)
    flags.negate span negated (flags.fold s)
  | .propertyValue name value =>
    let s ← flags.property span (Text.Property.charactersWith name value)
    flags.negate span negated (flags.fold s)

/-- Refuses a single byte that is no character. -/
def checkByte (flags : Flags) (l : Literal) : Reading Unit :=
  if !flags.unicode && l.isByte && 0x80 ≤ l.char.toNat then failAt .invalidUtf8 l.span else .ok ()

/-- A character between brackets. -/
def member (flags : Flags) (l : Literal) : Reading Char := do
  flags.checkByte l
  if !flags.unicode && 0x80 ≤ l.char.toNat then failAt .charactersBeyondAscii l.span
  else return l.char

end Flags

/-- Two sets joined. -/
def SetOperation.apply (op : SetOperation) (s t : CharSet) : CharSet :=
  match op with
  | inter => s.inter t
  | diff => s.diff t
  | symmDiff => s.symmDiff t

mutual

/-- The characters of what stands between brackets. -/
def ClassTerm.members (flags : Flags) : ClassTerm → Reading CharSet
  | .nothing _ => .ok CharSet.empty
  | .literal l => do return CharSet.single (← flags.member l)
  | .range _ first last => do return CharSet.range (← flags.member first) (← flags.member last)
  | .named span negated name => flags.named span negated name
  | .bracket span negated inside => do
    flags.negate span negated (flags.fold (← inside.members flags))
  | .union _ items => membersOfItems flags items
  | .operation _ op left right => do
    let s ← left.members flags
    let t ← right.members flags
    return op.apply (flags.fold s) (flags.fold t)

/-- The characters of some terms between brackets. -/
def membersOfItems (flags : Flags) : List ClassTerm → Reading CharSet
  | [] => .ok CharSet.empty
  | t :: ts => do return (← t.members flags).union (← membersOfItems flags ts)

end

/-! ## Terms -/

namespace Flags

/-- A character that stands for itself. -/
def literal (flags : Flags) (l : Literal) : Reading Pattern := do
  flags.checkByte l
  if flags.ignoreCase && (flags.unicode || l.char.isAlpha) && Text.hasCasePartner l.char then
    return ofSet (flags.fold (CharSet.single l.char))
  else return Pattern.literal [l.char]

/-- Any character, but for the ends of lines. -/
def dot (flags : Flags) (span : Span) : Reading Pattern :=
  if !flags.unicode then failAt .invalidUtf8 span
  else
    let lineEnds :=
      if flags.dotAll then CharSet.empty
      else if flags.crlf then CharSet.ofText "A D"
      else CharSet.ofText "A"
    .ok (ofSet lineEnds.complement)

/-- A condition on a place. -/
def assertion (flags : Flags) : Anchor → Assertion
  | .lineStart => if flags.multiLine then .lineStart flags.crlf else .textStart
  | .lineEnd => if flags.multiLine then .lineEnd flags.crlf else .textEnd
  | .textStart => .textStart
  | .textEnd => .textEnd
  | .word edge => .word edge !flags.unicode

end Flags

/-- A group of some kind. -/
def ofGroup (kind : GroupKind) (p : Pattern) : Pattern :=
  match kind with
  | .capture number => group number p
  | .plain _ => p

/-- The flags at the beginning of a group. -/
def Flags.inside (flags : Flags) : GroupKind → Flags
  | .capture _ => flags
  | .plain switches => flags.switchAll switches

mutual

/-- The pattern that a term means, and the flags behind it. -/
def Term.meaning (flags : Flags) : Term → Reading (Pattern × Flags)
  | .nothing _ => .ok (empty, flags)
  | .switches _ switches => .ok (empty, flags.switchAll switches)
  | .literal l => do return (← flags.literal l, flags)
  | .dot span => do return (← flags.dot span, flags)
  | .anchor _ anchor => .ok (assertion (flags.assertion anchor), flags)
  | .named span negated name => do return (ofSet (← flags.named span negated name), flags)
  | .bracket span negated inside => do
    let s ← flags.negate span negated (flags.fold (← inside.members flags))
    return (ofSet s, flags)
  | .repetition _ part least most greedy => do
    let (p, flags) ← part.meaning flags
    return (ofRepetition p least most (greedy != flags.swapGreed), flags)
  | .group _ kind part => do
    let (p, _) ← part.meaning (flags.inside kind)
    return (ofGroup kind p, flags)
  | .alternation _ parts => do
    let (ps, flags) ← meaningOfParts flags parts
    return (ofChoice ps, flags)
  | .concat _ parts => do
    let (ps, flags) ← meaningOfParts flags parts
    return (ofSequence ps, flags)

/-- The patterns that some terms mean, and the flags behind them. -/
def meaningOfParts (flags : Flags) : List Term → Reading (List Pattern × Flags)
  | [] => .ok ([], flags)
  | t :: ts => do
    let (p, flags) ← t.meaning flags
    let (ps, flags) ← meaningOfParts flags ts
    return (p :: ps, flags)

end

end Lorawan.Pattern
