import Lorawan.Pattern.Basic

/-!
# Patterns without needless parts

Ways to build patterns that leave out what changes nothing: sequences in sequences, empty parts, sets of one
character, repetitions of what is empty anyway, and beginnings that all alternatives share.
-/

namespace Lorawan.Pattern

mutual

/-- The number of characters of the shortest texts that a pattern may fit, if it is seen to fit any. -/
def leastLength? : Pattern → Option Nat
  | empty | assertion _ => some 0
  | literal cs => some cs.length
  | set s => if s.isEmpty then none else some 1
  | repetition p least _ _ => p.leastLength?.map (· * least)
  | group _ p => p.leastLength?
  | concat ps => leastTotal? ps
  | alternation ps => leastOfAll? ps

/-- The sum of the least lengths of some patterns. -/
def leastTotal? : List Pattern → Option Nat
  | [] => some 0
  | p :: ps => do return (← p.leastLength?) + (← leastTotal? ps)

/-- The least of the least lengths of some patterns, all of which are seen to fit some text. -/
def leastOfAll? : List Pattern → Option Nat
  | [] => none
  | [p] => p.leastLength?
  | p :: ps => do return min (← p.leastLength?) (← leastOfAll? ps)

end

mutual

/-- Whether a pattern is seen to fit no text but the empty one. -/
def isOnlyEmpty : Pattern → Bool
  | empty | assertion _ => true
  | literal cs => cs.isEmpty
  | set _ => false
  | repetition p _ most _ => most.isSome && p.isOnlyEmpty
  | group _ p => p.isOnlyEmpty
  | concat ps => areOnlyEmpty ps
  | alternation ps => areOnlyEmpty ps

/-- Whether some patterns all are seen to fit no text but the empty one. -/
def areOnlyEmpty : List Pattern → Bool
  | [] => true
  | p :: ps => p.isOnlyEmpty && areOnlyEmpty ps

end

mutual

/-- The number of parts of a pattern, itself included. -/
def partCount : Pattern → Nat
  | empty | literal _ | set _ | assertion _ => 1
  | repetition p _ _ _ => p.partCount + 1
  | group _ p => p.partCount + 1
  | concat ps => partTotal ps + 1
  | alternation ps => partTotal ps + 1

/-- The number of parts of some patterns. -/
def partTotal : List Pattern → Nat
  | [] => 0
  | p :: ps => p.partCount + partTotal ps

end

/-- One character out of a set. -/
def ofSet (s : Text.CharSet) : Pattern :=
  match s.single? with
  | some c => literal [c]
  | none => set s

/-- A repetition; rounds that can only be empty need not be repeated. -/
def ofRepetition (p : Pattern) (least : Nat) (most : Option Nat) (greedy : Bool) : Pattern :=
  let void := p.isOnlyEmpty
  let least := if void then min least 1 else least
  let most := if void then some (min (most.getD 1) 1) else most
  if most = some 0 then empty
  else if least = 1 && most = some 1 then p
  else repetition p least most greedy

/-- The parts that a pattern has in a sequence. -/
def sequenceParts : Pattern → List Pattern
  | empty => []
  | concat ps => ps
  | p => [p]

/-- A sequence in which no literal follows another. -/
def joinLiterals : List Pattern → List Pattern
  | [] => []
  | literal cs :: ps =>
    match joinLiterals ps with
    | literal ds :: qs => literal (cs ++ ds) :: qs
    | qs => literal cs :: qs
  | p :: ps => p :: joinLiterals ps

/-- Patterns one after another. -/
def ofSequence (ps : List Pattern) : Pattern :=
  match joinLiterals (ps.flatMap sequenceParts) with
  | [] => empty
  | [p] => p
  | ps => concat ps

/-- The alternatives that a pattern has in a choice. -/
def choiceParts : Pattern → List Pattern
  | alternation ps => ps
  | p => [p]

/-- The set of a literal of one character. -/
def singleton? : Pattern → Option Text.CharSet
  | literal [c] => some (Text.CharSet.single c)
  | _ => none

/-- The set of a pattern that is one character out of a set. -/
def set? : Pattern → Option Text.CharSet
  | set s => some s
  | _ => none

/-- The parts of a sequence of several parts. -/
def concat? : Pattern → Option (List Pattern)
  | concat ps => some ps
  | _ => none

/-- The number of parts that two sequences begin with alike. -/
def commonLength : List Pattern → List Pattern → Nat
  | p :: ps, q :: qs => if p == q then commonLength ps qs + 1 else 0
  | _, _ => 0

/-- One of several patterns, taken apart so many times at most: single characters and sets become one set,
and parts with which all alternatives begin come before the choice. -/
def ofAlternatives : (fuel : Nat) → List Pattern → Pattern
  | 0, ps => alternation ps
  | fuel + 1, ps =>
    match ps.flatMap choiceParts with
    | [] => set Text.CharSet.empty
    | [p] => p
    | ps =>
      match ps.mapM singleton?, ps.mapM set?, ps.mapM concat? with
      | some ss, _, _ => ofSet (Text.CharSet.unionAll ss)
      | none, some ss, _ => ofSet (Text.CharSet.unionAll ss)
      | none, none, some (first :: rest) =>
        let length := (rest.map (commonLength first)).foldl min first.length
        if length = 0 then alternation ps
        else
          let ends := (first :: rest).map fun qs => ofSequence (qs.drop length)
          ofSequence (first.take length ++ [ofAlternatives fuel ends])
      | none, none, _ => alternation ps

/-- One of several patterns. -/
def ofChoice (ps : List Pattern) : Pattern := ofAlternatives (partTotal ps + 1) ps

end Lorawan.Pattern
