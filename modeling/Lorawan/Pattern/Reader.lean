import Lorawan.Pattern.Class
import Lorawan.Text.Word

/-!
# Reading patterns

The text form of patterns: literal characters, classes in brackets, escapes, groups with flags,
alternatives and repetitions.  A flaw points at the part of the text that is wrong; of several flaws the
first one counts.
-/

namespace Lorawan.Pattern

/-! ## Numbers and repetitions -/

/-- Some decimal digits and what means nothing behind each of them. -/
def readDecimalDigits : (fuel : Nat) → (digits : List Char) → Cursor → List Char × Cursor
  | 0, digits, c => (digits.reverse, c)
  | fuel + 1, digits, c =>
    match c.head? with
    | none => (digits.reverse, c)
    | some d =>
      if d.isDigit then readDecimalDigits fuel (d :: digits) c.step else (digits.reverse, c)

/-- A count below 2³², with white space around it, or what is wrong with it, and the cursor behind it. -/
def readCount (c : Cursor) : Reading Nat × Cursor :=
  let start := c.skipSpaces
  let (digits, stop) := readDecimalDigits start.rest.length [] start
  let n := digits.foldl (fun n d => n * 10 + (d.toNat - '0'.toNat)) 0
  let count : Reading Nat :=
    if digits.isEmpty then failAt .countEmpty (start.upTo stop)
    else if n < UInt32.size then .ok n
    else failAt .decimalInvalid (start.upTo stop)
  (count, stop.skipSpaces)

/-- How often something may stand in a row. -/
structure Bounds where
  least : Nat
  most : Option Nat
  deriving DecidableEq, Repr

/-- The bounds in braces, from the opening one on, up to the closing one. -/
def readBounds (start : Cursor) : Reading (Bounds × Cursor) := do
  let unclosed {α : Type} (c : Cursor) : Reading α := failAt .countUnclosed (start.upTo c)
  let inside := start.step
  if inside.atEnd then unclosed inside
  else
    let (least, c) := readCount inside
    if c.atEnd then unclosed c
    else if c.comes ',' then
      let c := c.step
      if c.atEnd then unclosed c
      else if c.comes '\x7d' then return (⟨← least, none⟩, c)
      else
        let least ← least
        let (most, c) := readCount c
        let most ← most
        if c.comes '\x7d' then return (⟨least, some most⟩, c) else unclosed c
    else
      let count ← least
      if c.comes '\x7d' then return (⟨count, some count⟩, c) else unclosed c

/-- Whether a term can be repeated. -/
def Term.isRepeatable : Term → Bool
  | .nothing _ | .switches _ _ => false
  | _ => true

/-- A repetition of a term, from its sign or its braces on.  A question mark behind it makes it prefer to be
short. -/
def readRepetition (sub : Term) (start : Cursor) : Reading (Term × Cursor) := do
  let build (bounds : Bounds) (c : Cursor) : Term × Cursor :=
    let modest := c.comes '?'
    let after := if modest then c.skip else c
    (.repetition ⟨sub.span.start, after.place⟩ sub bounds.least bounds.most !modest, after)
  match start.head? with
  | some '?' => return build ⟨0, some 1⟩ start.skip
  | some '*' => return build ⟨0, none⟩ start.skip
  | some '+' => return build ⟨1, none⟩ start.skip
  | _ =>
    let (bounds, close) ← readBounds start
    let (t, after) := build bounds close.step
    if bounds.most.any (· < bounds.least) then failAt .countRange (start.upTo after)
    else return (t, after)

/-! ## Groups -/

/-- The flags by their letters. -/
def flagOfLetter? (letter : Char) : Option Flag :=
  match letter with
  | 'i' => some .ignoreCase
  | 'm' => some .multiLine
  | 's' => some .dotAll
  | 'U' => some .swapGreed
  | 'u' => some .unicode
  | 'R' => some .crlf
  | 'x' => some .freeLayout
  | _ => none

/-- The flags of a group up to here, each with the place of its letter, and the place of the hyphen behind
which flags are switched off. -/
structure FlagList where
  flags : List (Flag × Bool × Span)
  hyphen : Option Span

/-- The flags of a group, from one of them on. -/
def readFlags : (fuel : Nat) → (afterHyphen : Bool) → FlagList → Cursor → Reading (FlagList × Cursor)
  | 0, _, _, c => failAt .flagUnexpectedEnd c.here
  | fuel + 1, afterHyphen, l, c =>
    match c.head? with
    | none => failAt .flagUnexpectedEnd c.here
    | some x =>
      if x = ':' || x = ')' then
        match afterHyphen, l.hyphen with
        | true, some hyphen => failAt .flagDangling hyphen
        | _, _ => .ok (l, c)
      else if x = '-' then
        match l.hyphen with
        | some earlier => .error ⟨.flagRepeatedNegation, c.char, some earlier⟩
        | none =>
          if c.skip.atEnd then failAt .flagUnexpectedEnd c.skip.here
          else readFlags fuel true { l with hyphen := some c.char } c.skip
      else
        match flagOfLetter? x with
        | none => failAt .flagUnrecognized c.char
        | some f =>
          match l.flags.find? fun earlier => earlier.1 = f with
          | some earlier => .error ⟨.flagDuplicate, c.char, some earlier.2.2⟩
          | none =>
            let on := l.hyphen.isNone
            if c.skip.atEnd then failAt .flagUnexpectedEnd c.skip.here
            else readFlags fuel false { l with flags := l.flags ++ [(f, on, c.char)] } c.skip

/-- Whether a character may stand in the name of a group, first or later. -/
def isNameChar (first : Bool) (c : Char) : Bool :=
  c = '_' || Text.alphabeticChars.contains c
    || (!first && (c = '.' || c = '[' || c = ']' || Text.numericChars.contains c))

/-- A name of a group, up to the sign that closes it, and where it stands. -/
def readName (c : Cursor) : Reading (String × Span × Cursor) :=
  let name := c.rest.takeWhile (· ≠ '>')
  let close := c.skip name.length
  match name.zipIdx.find? fun (x, i) => !isNameChar (i = 0) x with
  | some (_, i) => failAt .groupNameInvalid (c.skip i).char
  | none =>
    if close.atEnd then failAt .groupNameUnexpectedEnd close.here
    else if name.isEmpty then failAt .groupNameEmpty c.here
    else .ok (String.ofList name, c.upTo close, close.skip)

/-- What an opening parenthesis begins. -/
inductive Opening where
  | switches (s : Switches)
  | group (kind : GroupKind)
  | named (name : String) (span : Span)
  deriving Repr

/-- The beginning of a group, from its parenthesis on. -/
def readGroup (start : Cursor) (number : Nat) : Reading (Opening × Cursor) := do
  let c := start.step
  if ["?=", "?!"].any c.startsWith then failAt .lookAround (start.upTo (c.skip 2))
  else if ["?<=", "?<!"].any c.startsWith then failAt .lookAround (start.upTo (c.skip 3))
  else if c.startsWith "?P<" || c.startsWith "?<" then
    let (name, span, after) ← readName (c.skip (if c.startsWith "?P<" then 3 else 2))
    return (.named name span, after)
  else if c.comes '?' then
    let inside := c.skip
    if inside.atEnd then failAt .groupUnclosed start.char
    else
      let (l, close) ← readFlags (inside.rest.length + 1) false ⟨[], none⟩ inside
      let switches := l.flags.map fun (f, on, _) => (f, on)
      if close.comes ':' then return (.group (.plain switches), close.skip)
      else if switches.isEmpty && l.hyphen.isNone then failAt .repetitionMissing c.here
      else return (.switches switches, close.skip)
  else return (.group (.capture number), c)

/-! ## Sequences and alternatives -/

/-- The alternatives of a group, or of the whole pattern, up to here: where they begin, those that are
finished, where the one under way begins, and its terms; in both lists the last one comes first. -/
structure Branches where
  start : Nat
  finished : List Term
  place : Nat
  terms : List Term

namespace Branches

/-- No alternatives yet. -/
def beginning (c : Cursor) : Branches := ⟨c.place, [], c.place, []⟩

/-- One more term. -/
def push (b : Branches) (t : Term) : Branches := { b with terms := t :: b.terms }

/-- The alternative under way, which ends here. -/
def branch (b : Branches) (stop : Nat) : Term :=
  match b.terms with
  | [] => .nothing ⟨b.place, stop⟩
  | [t] => t
  | ts => .concat ⟨b.place, stop⟩ ts.reverse

/-- The next alternative begins behind the sign here. -/
def split (b : Branches) (c : Cursor) : Branches :=
  { b with finished := b.branch c.place :: b.finished, place := c.place + 1, terms := [] }

/-- The alternatives as one term, which ends here. -/
def toTerm (b : Branches) (stop : Nat) : Term :=
  match b.finished with
  | [] => b.branch stop
  | ts => .alternation ⟨b.start, stop⟩ (b.branch stop :: ts).reverse

end Branches

/-- A group that has been opened: the alternatives around it, where its parenthesis stands, what it is for,
and the layout around it. -/
structure OpenGroup where
  outer : Branches
  span : Span
  kind : GroupKind
  free : Bool

/-- What has been read of a pattern: the alternatives under way, the open groups around them, the innermost
one first, the names of groups and where they stand, and the number of the next group. -/
structure Progress where
  branches : Branches
  groups : List OpenGroup
  names : List (String × Span)
  number : Nat

/-- The layout behind some switches. -/
def layoutAfter (switches : Switches) (free : Bool) : Bool := (switches.lookup .freeLayout).getD free

/-- The progress inside a group that begins here. -/
def Progress.enter (p : Progress) (start : Cursor) (kind : GroupKind) (c : Cursor) :
    Progress × Cursor :=
  let switches :=
    match kind with
    | .capture _ => []
    | .plain switches => switches
  let number :=
    match kind with
    | .capture n => n + 1
    | .plain _ => p.number
  let group : OpenGroup := ⟨p.branches, start.char, kind, start.free⟩
  ({ p with branches := Branches.beginning c, groups := group :: p.groups, number := number },
    { c with free := layoutAfter switches c.free })

/-- Reads what an opening parenthesis begins. -/
def Progress.openGroup (p : Progress) (start : Cursor) : Reading (Progress × Cursor) := do
  let (opening, c) ← readGroup start p.number
  match opening with
  | .switches s =>
    return ({ p with branches := p.branches.push (.switches (start.upTo c) s) },
      { c with free := layoutAfter s c.free })
  | .group kind => return p.enter start kind c
  | .named name span =>
    match p.names.find? fun earlier => earlier.1 = name with
    | some earlier => .error ⟨.groupNameDuplicate, span, some earlier.2⟩
    | none =>
      return { p with names := p.names ++ [(name, span)] }.enter start (.capture p.number) c

/-- Ends the innermost group at a closing parenthesis. -/
def Progress.closeGroup (p : Progress) (c : Cursor) : Reading (Progress × Cursor) :=
  match p.groups with
  | [] => failAt .groupUnopened c.char
  | g :: groups =>
    let t := Term.group ⟨g.span.start, c.place + 1⟩ g.kind (p.branches.toTerm c.place)
    .ok ({ p with branches := g.outer.push t, groups := groups }, { c.skip with free := g.free })

/-- A term that is no group, class or repetition. -/
def readSingle (c : Cursor) : Reading (Term × Cursor) :=
  match c.head? with
  | some '\\' => readEscape c
  | some '.' => .ok (.dot c.char, c.skip)
  | some '^' => .ok (.anchor c.char .lineStart, c.skip)
  | some '$' => .ok (.anchor c.char .lineEnd, c.skip)
  | some x => .ok (.literal ⟨c.char, x, false⟩, c.skip)
  | none => .ok (.nothing c.here, c)

/-- Reads the next term, or what begins, parts or ends groups and alternatives. -/
def Progress.next (p : Progress) (c : Cursor) : Reading (Progress × Cursor) := do
  let pushed (read : Term × Cursor) : Progress × Cursor :=
    ({ p with branches := p.branches.push read.1 }, read.2)
  match c.head? with
  | some '(' => p.openGroup c
  | some ')' => p.closeGroup c
  | some '|' => return ({ p with branches := p.branches.split c }, c.skip)
  | some '[' => return pushed (← readClass c)
  | some x =>
    if ['?', '*', '+', '\x7b'].contains x then
      match p.branches.terms with
      | t :: ts =>
        if t.isRepeatable then
          let (t, after) ← readRepetition t c
          return ({ p with branches := { p.branches with terms := t :: ts } }, after)
        else failAt .repetitionMissing c.here
      | [] => failAt .repetitionMissing c.here
    else return pushed (← readSingle c)
  | none => return (p, c)

/-- Reads up to the end of the text. -/
def Progress.finish : (fuel : Nat) → Progress → Cursor → Reading Term
  | 0, p, c => .ok (p.branches.toTerm c.place)
  | fuel + 1, p, c => do
    let c := c.skipBlanks
    if c.atEnd then
      match p.groups with
      | [] => return p.branches.toTerm c.place
      | g :: _ => failAt .groupUnclosed g.span
    else
      let (p, after) ← p.next c
      p.finish fuel after

/-- Reads the text of a pattern. -/
def Term.parse (s : String) : Reading Term :=
  let start : Cursor := ⟨0, s.toList, false⟩
  Progress.finish (s.length + 1) ⟨Branches.beginning start, [], [], 1⟩ start

end Lorawan.Pattern
