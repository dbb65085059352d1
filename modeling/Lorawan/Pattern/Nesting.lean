import Lorawan.Pattern.Term

/-!
# How deep a pattern is nested

Groups, repetitions, classes, and sequences and choices of several parts lie in each other.  A pattern in
which more than a fixed number of them do is refused at the first part that lies too deep.
-/

namespace Lorawan.Pattern

/-- One level more than some depth, for a part that adds a level. -/
def descend (depth : Nat) (span : Span) : Reading Nat :=
  if depth < deepestNesting then .ok (depth + 1) else failAt .nestedTooDeep span

mutual

/-- Refuses what lies too deep between brackets. -/
def ClassTerm.checkNesting (depth : Nat) : ClassTerm → Reading Unit
  | .nothing _ | .literal _ | .range _ _ _ | .named _ _ _ => .ok ()
  | .bracket s _ inside => do inside.checkNesting (← descend depth s)
  | .union s items => do checkNestingOfItems (← descend depth s) items
  | .operation s _ left right => do
    let depth ← descend depth s
    left.checkNesting depth
    right.checkNesting depth

/-- Refuses what lies too deep in some terms between brackets. -/
def checkNestingOfItems (depth : Nat) : List ClassTerm → Reading Unit
  | [] => .ok ()
  | t :: ts => do
    t.checkNesting depth
    checkNestingOfItems depth ts

end

mutual

/-- Refuses what lies too deep in a term. -/
def Term.checkNesting (depth : Nat) : Term → Reading Unit
  | .nothing _ | .switches _ _ | .literal _ | .dot _ | .anchor _ _ | .named _ _ _ => .ok ()
  | .bracket s _ inside => do inside.checkNesting (← descend depth s)
  | .repetition s part _ _ _ => do part.checkNesting (← descend depth s)
  | .group s _ part => do part.checkNesting (← descend depth s)
  | .alternation s parts => do checkNestingOfParts (← descend depth s) parts
  | .concat s parts => do checkNestingOfParts (← descend depth s) parts

/-- Refuses what lies too deep in some terms. -/
def checkNestingOfParts (depth : Nat) : List Term → Reading Unit
  | [] => .ok ()
  | t :: ts => do
    t.checkNesting depth
    checkNestingOfParts depth ts

end

end Lorawan.Pattern
