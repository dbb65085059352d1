import Lorawan.Pattern.Escape

/-!
# Classes

What stands between brackets: characters, ranges of them, named sets and further classes, and the signs for
what two such lists have in common or apart.
-/

namespace Lorawan.Pattern

/-- The names of sets of ASCII characters. -/
def AsciiClass.named : List (String × AsciiClass) := [
  ("alnum", .alnum), ("alpha", .alpha), ("ascii", .ascii), ("blank", .blank), ("cntrl", .cntrl),
  ("digit", .digit), ("graph", .graph), ("lower", .lower), ("print", .print), ("punct", .punct),
  ("space", .space), ("upper", .upper), ("word", .word), ("xdigit", .xdigit)]

/-- A named set of ASCII characters, if one stands here. -/
def readAsciiClass? (c : Cursor) : Option (ClassTerm × Cursor) :=
  if !c.startsWith "[:" then none
  else
    let negated := c.startsWith "[:^"
    let inside := c.skip (if negated then 3 else 2)
    let name := inside.rest.takeWhile (· ≠ ':')
    let close := inside.skip name.length
    if !close.startsWith ":]" then none
    else
      let after := close.skip 2
      (AsciiClass.named.lookup (String.ofList name)).map fun s =>
        (.named (c.upTo after) negated (.ascii s), after)

/-- A term as a member of a class. -/
def Term.asMember : Term → Reading ClassTerm
  | .literal l => .ok (.literal l)
  | .named s negated name => .ok (.named s negated name)
  | t => failAt .classEscapeInvalid t.span

/-- A term as an end of a range. -/
def Term.asRangeEnd : Term → Reading Literal
  | .literal l => .ok l
  | t => failAt .classRangeLiteral t.span

/-- A character or an escape between brackets. -/
def readMember (c : Cursor) : Reading (Term × Cursor) :=
  match c.head? with
  | some '\\' => readEscape c
  | some x => .ok (.literal ⟨c.char, x, false⟩, c.skip)
  | none => failAt .classUnclosed c.here

/-- A member of a class, or a range of them, in a class that was opened at `opening`.  A hyphen makes a range
unless the class ends behind it or another hyphen makes it a sign of its own. -/
def readRange (opening : Span) (c : Cursor) : Reading (ClassTerm × Cursor) := do
  let (first, after) ← readMember c
  let after := after.skipBlanks
  if after.atEnd then failAt .classUnclosed opening
  else if !after.comes '-' || after.second? = some ']' || after.second? = some '-' then
    return (← first.asMember, after)
  else
    let c := after.step
    if c.atEnd then failAt .classUnclosed opening
    else
      let (last, after) ← readMember c
      let span : Span := ⟨first.span.start, last.span.stop⟩
      let first ← first.asRangeEnd
      let last ← last.asRangeEnd
      if last.char < first.char then failAt .classRangeInvalid span
      else return (.range span first last, after)

/-- The members of a class up to here, last first, behind the place where the list begins. -/
structure Members where
  place : Nat
  items : List ClassTerm

namespace Members

/-- Some more members. -/
def push (m : Members) (t : ClassTerm) : Members := { m with items := t :: m.items }

/-- The members as one term. -/
def toTerm (m : Members) : ClassTerm :=
  match m.items.reverse with
  | [] => .nothing ⟨m.place, m.place⟩
  | [t] => t
  | t :: ts => .union ⟨t.span.start, ((t :: ts).getLast?.getD t).span.stop⟩ (t :: ts)

end Members

/-- A class whose brackets have been opened: where, whether it is about all other characters, and what stands
before the members under way. -/
structure OpenClass where
  opening : Span
  negated : Bool
  left : Option (SetOperation × ClassTerm)

/-- What stands in a class up to here. -/
def OpenClass.close (o : OpenClass) (m : Members) : ClassTerm :=
  match o.left with
  | none => m.toTerm
  | some (op, left) =>
    let right := m.toTerm
    .operation ⟨left.span.start, right.span.stop⟩ op left right

/-- The sign for an operation on two lists of members, if one stands here. -/
def operationHere? (c : Cursor) : Option SetOperation :=
  if c.startsWith "&&" then some .inter
  else if c.startsWith "--" then some .diff
  else if c.startsWith "~~" then some .symmDiff
  else none

/-- The hyphens at the beginning of a class, which stand for themselves. -/
def readHyphens (start : Cursor) : (fuel : Nat) → Members → Cursor → Reading (Members × Cursor)
  | 0, m, c => .ok (m, c)
  | fuel + 1, m, c =>
    if !c.comes '-' then .ok (m, c)
    else if c.step.atEnd then failAt .classUnclosed start.here
    else readHyphens start fuel (m.push (.literal ⟨c.char, '-', false⟩)) c.step

/-- The beginning of a class, from its bracket on.  A closing bracket that comes first stands for itself. -/
def readOpening (start : Cursor) : Reading (OpenClass × Members × Cursor) := do
  let c := start.step
  if c.atEnd then failAt .classUnclosed (start.upTo c)
  else
    let negated := c.comes '^'
    let c := if negated then c.step else c
    if c.atEnd then failAt .classUnclosed (start.upTo c)
    else
      let (m, c) ← readHyphens start c.rest.length ⟨c.place, []⟩ c
      if m.items.isEmpty && c.comes ']' then
        let after := c.step
        if after.atEnd then failAt .classUnclosed (start.upTo after)
        else
          return (⟨start.upTo after, negated, none⟩, m.push (.literal ⟨c.char, ']', false⟩), after)
      else return (⟨start.upTo c, negated, none⟩, m, c)

/-- The rest of a class that begins with some members, and the classes in it. -/
def readMembers (start : Cursor) :
    (fuel : Nat) → OpenClass → Members → Cursor → Reading (Span × Bool × ClassTerm × Cursor)
  | 0, o, _, _ => failAt .classUnclosed o.opening
  | fuel + 1, o, m, c => do
    let c := c.skipBlanks
    match c.head? with
    | none => failAt .classUnclosed o.opening
    | some ']' => return (start.upTo c.skip, o.negated, o.close m, c.skip)
    | some '[' =>
      match readAsciiClass? c with
      | some (t, after) => readMembers start fuel o (m.push t) after
      | none =>
        let (inner, members, inside) ← readOpening c
        let (span, negated, t, after) ← readMembers c fuel inner members inside
        readMembers start fuel o (m.push (.bracket span negated t)) after
    | some _ =>
      match operationHere? c with
      | some op =>
        let after := c.skip 2
        readMembers start fuel { o with left := some (op, o.close m) } ⟨after.place, []⟩ after
      | none =>
        let (t, after) ← readRange o.opening c
        readMembers start fuel o (m.push t) after

/-- A class, from its bracket on. -/
def readClass (c : Cursor) : Reading (Term × Cursor) := do
  let (o, m, inside) ← readOpening c
  let (span, negated, t, after) ← readMembers c (c.rest.length + 1) o m inside
  return (.bracket span negated t, after)

end Lorawan.Pattern
