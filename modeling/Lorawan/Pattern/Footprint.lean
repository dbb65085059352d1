import Lorawan.Pattern.Normal
import Lorawan.Text.ByteSequence
import Lorawan.Text.Utf8

/-!
# How large a pattern is

A pattern stands for a machine that reads bytes, forward, and for one that reads them backward.  Counted
repetitions are written out in these machines, so a short pattern may need a large one; a pattern is too
large if one of its machines takes up more memory than is allowed.

A machine is made of numbered states.  A state takes up a fixed number of bytes, and more for each way out
of it if it has several.  What is built is not the machine but its size, part by part in the order in which
the states are numbered.
-/

namespace Lorawan.Pattern

open Text (ByteRange CharSet)

/-- The memory that a machine may take up. -/
def sizeLimit : Nat := 10485760

/-- The memory of a state. -/
def stateSize : Nat := 32

/-- The memory of a way out of a state that leads on over a range of bytes. -/
def transitionSize : Nat := 8

/-- The memory of a way out of a fork, which leads on without a byte. -/
def branchSize : Nat := 4

/-- The size of a machine: its states, and the memory for the ways out of them. -/
structure Size where
  states : Nat
  ways : Nat
  deriving DecidableEq, Repr

namespace Size

/-- The size with some states and ways more, unless that is too large. -/
def add? (s : Size) (states ways : Nat) : Option Size :=
  let t : Size := ⟨s.states + states, s.ways + ways⟩
  if t.states * stateSize + t.ways ≤ sizeLimit then some t else none

/-- The size of several machines together. -/
def total (ss : List Size) : Size := ss.foldl (fun s t => ⟨s.states + t.states, s.ways + t.ways⟩) ⟨0, 0⟩

end Size

/-- The size of a machine up to some part, and whether that part ends in a fork, out of which each further
way takes up memory. -/
structure Stage where
  size : Size
  fork : Bool

namespace Stage

/-- A way from the end of the part on. -/
def lead? (s : Stage) : Option Size := s.size.add? 0 (if s.fork then branchSize else 0)

end Stage

/-- A part of a machine, which makes the machine larger. -/
structure Piece where
  build : Size → Option Stage

namespace Piece

/-- Some states in a row. -/
def states (n : Nat) (ways : Nat := 0) : Piece := ⟨fun s => do return ⟨← s.add? n ways, false⟩⟩

/-- So many more copies of a part behind a stage. -/
def more (p : Piece) : Nat → Stage → Option Stage
  | 0, s => some s
  | n + 1, s => do p.more n (← p.build (← s.lead?))

/-- A part so many times in a row. -/
def times (p : Piece) (n : Nat) : Piece :=
  match n with
  | 0 => states 1
  | n + 1 => ⟨fun s => do p.more n (← p.build s)⟩

/-- So many more copies of a part behind a stage, each with a fork before it that leads past it. -/
def moreOptional (p : Piece) : Nat → Stage → Option Stage
  | 0, s => some s
  | n + 1, s => do p.moreOptional n (← p.build (← (← s.lead?).add? 1 (2 * branchSize)))

/-- A part that may be left out. -/
def optional (p : Piece) : Piece := ⟨fun s => do
  let t ← p.build (← s.add? 1 (2 * branchSize))
  return ⟨← (← t.lead?).add? 1 0, false⟩⟩

/-- A part any number of times, but at least so many. -/
def atLeast (p : Piece) (consumes : Bool) (n : Nat) : Piece :=
  match n with
  | 0 =>
    if consumes then
      ⟨fun s => do
        let t ← p.build (← s.add? 1 branchSize)
        return ⟨← t.lead?, true⟩⟩
    else
      ⟨fun s => do
        let t ← p.build s
        return ⟨← (← t.lead?).add? 3 (4 * branchSize), false⟩⟩
  | n + 1 => ⟨fun s => do
    let t ← (p.times (n + 1)).build s
    return ⟨← (← t.lead?).add? 1 branchSize, true⟩⟩

/-- A part at least so many times, and at most so many. -/
def between (p : Piece) (least most : Nat) : Piece := ⟨fun s => do
  let t ← (p.times least).build s
  let t ← p.moreOptional (most - least) ⟨← t.size.add? 1 0, t.fork⟩
  return ⟨← t.lead?, false⟩⟩

/-- Parts one after another. -/
def inSequence : List Piece → Piece
  | [] => states 1
  | p :: ps => ⟨fun s => do
    ps.foldlM (fun t q => do q.build (← t.lead?)) (← p.build s)⟩

/-- One of several parts. -/
def inChoice : List Piece → Piece
  | [] => states 1
  | [p] => p
  | p :: q :: ps => ⟨fun s => do
    let t ← p.build s
    let u ← q.build t.size
    let s ← u.size.add? 2 (2 * branchSize)
    let s ← Stage.lead? ⟨s, t.fork⟩
    let s ← Stage.lead? ⟨s, u.fork⟩
    let joined ← ps.foldlM
      (fun s r => do (← (← r.build s).lead?).add? 0 branchSize) s
    return ⟨joined, false⟩⟩

/-- A part between two states that take note of where it begins and ends. -/
def noted (p : Piece) : Piece := ⟨fun s => do
  let t ← p.build (← s.add? 1 0)
  return ⟨← (← t.lead?).add? 1 0, false⟩⟩

end Piece

/-! ## Literals -/

/-- The lists between the empty ones in a list. -/
def betweenEmpty : List (List Nat) → List (List (List Nat))
  | [] => [[]]
  | [] :: ws => [] :: betweenEmpty ws
  | w :: ws =>
    match betweenEmpty ws with
    | [] => [[w]]
    | chunk :: rest => (w :: chunk) :: rest

/-- The size of the tree of some words, which share their beginnings.  A word that ends where others go on
parts the ways out before it from those behind it. -/
def treeSize : (depth : Nat) → List (List Nat) → Size
  | 0, _ => ⟨0, 0⟩
  | depth + 1, words =>
    let words :=
      if words.head? = some [] then [] :: words.dropWhile (· = []) else words
    let chunks := betweenEmpty words
    if chunks.all (·.isEmpty) then ⟨0, 0⟩
    else
      let parts := chunks.map fun chunk =>
        let bytes := (chunk.filterMap List.head?).eraseDups
        let below := bytes.map fun b =>
          treeSize depth (chunk.filterMap fun w => if w.head? = some b then some w.tail else none)
        let inner := Size.total below
        match bytes.length with
        | 0 => inner
        | 1 => ⟨inner.states + 1, inner.ways + branchSize⟩
        | n => ⟨inner.states + 1, inner.ways + branchSize + n * transitionSize⟩
      let all := Size.total parts
      ⟨all.states + 1, all.ways + (chunks.length - 1) * branchSize⟩

/-- The bytes of a literal. -/
def literalBytes? : Pattern → Option (List Nat)
  | literal cs => some ((Utf8.encode (String.ofList cs)).map UInt8.toNat)
  | _ => none

/-- A choice between literals. -/
def Piece.ofWords (reverse : Bool) (words : List (List Nat)) : Piece :=
  let words := if reverse then words.map List.reverse else words
  let depth := (words.map List.length).foldl max 0
  let size := treeSize (depth + 1) words
  .states (size.states + 1) size.ways

/-! ## Sets -/

/-- Goes on with a sum over numbers that is used to find places in a table. -/
def scatter (h : UInt64) (n : Nat) : UInt64 := (h ^^^ UInt64.ofNat n) * 1099511628211

/-- The place of some numbers in a table. -/
def tablePlace (size : Nat) (ns : List Nat) : Nat :=
  (ns.foldl scatter 14695981039346656037).toNat % size

/-- A table of a fixed size that remembers states by what they are: of those with the same place it knows
the last one only. -/
structure Memory (α : Type) where
  slots : Array (Option (α × Nat))

namespace Memory

/-- A table that knows nothing. -/
def blank (size : Nat) : Memory α := ⟨Array.replicate size none⟩

/-- The state that is known to be something. -/
def find? [BEq α] (m : Memory α) (numbers : α → List Nat) (key : α) : Option Nat :=
  match m.slots[tablePlace m.slots.size (numbers key)]? with
  | some (some (k, state)) => if k == key then some state else none
  | _ => none

/-- The table with one more state known. -/
def insert (m : Memory α) (numbers : α → List Nat) (key : α) (state : Nat) : Memory α :=
  ⟨m.slots.setIfInBounds (tablePlace m.slots.size (numbers key)) (some (key, state))⟩

end Memory

/-- A way out of a state over a range of bytes. -/
structure Way where
  range : ByteRange
  target : Nat
  deriving DecidableEq, Repr

/-- The numbers of the ways out of a state. -/
def Way.numbers (ways : List Way) : List Nat :=
  ways.flatMap fun w => [w.range.first, w.range.last, w.target]

/-- A state under construction: its finished ways out, and the range of the one whose target is not known
yet. -/
structure Draft where
  ways : List Way
  under : Option ByteRange

/-- The state with its last way out finished. -/
def Draft.settle (d : Draft) (target : Nat) : Draft :=
  match d.under with
  | none => d
  | some range => ⟨d.ways ++ [⟨range, target⟩], none⟩

/-- The finished states of a machine: its size, and those that are remembered. -/
structure Finished where
  size : Size
  known : Memory (List Way)

namespace Finished

/-- The state with some ways out, which is a new one unless such a state is remembered. -/
def state? (f : Finished) (ways : List Way) : Option (Nat × Finished) :=
  match f.known.find? Way.numbers ways with
  | some state => some (state, f)
  | none => do
    let state := f.size.states
    let size ← f.size.add? 1 (ways.length * transitionSize)
    return (state, ⟨size, f.known.insert Way.numbers ways state⟩)

/-- Finishes states under construction, each of which leads to the next one, and the last one to some
target. -/
def finishAll? (f : Finished) (target : Nat) : List Draft → Option (Nat × Finished)
  | [] => some (target, f)
  | d :: ds => do
    let (next, f) ← f.finishAll? target ds
    f.state? (d.settle next).ways

end Finished

/-- A machine for a set under construction: its finished states, and those under construction, from the
first one on. -/
structure Network where
  finished : Finished
  drafts : List Draft

namespace Network

/-- The number of byte ranges that a sequence begins with as the sequence before it does. -/
def sharedLength : List ByteRange → List Draft → Nat
  | r :: rs, d :: ds => if d.under = some r then sharedLength rs ds + 1 else 0
  | _, _ => 0

/-- Adds a sequence that comes after all sequences before it.  The states behind what it shares with the one
before it are finished. -/
def add? (target : Nat) (n : Network) (sequence : List ByteRange) : Option Network := do
  let ⟨finished, drafts⟩ := n
  let shared := sharedLength sequence drafts
  let (next, finished) ← finished.finishAll? target (drafts.drop (shared + 1))
  let rest := sequence.drop shared
  let kept := drafts.take (shared + 1)
  let parting := kept.drop shared |>.map fun d => { d.settle next with under := rest.head? }
  return ⟨finished, kept.take shared ++ parting ++ rest.tail.map fun r => ⟨[], some r⟩⟩

end Network

/-- A machine part for the sequences of a set, in which equal ends of sequences are shared. -/
def Piece.forward (sequences : List (List ByteRange)) : Piece := ⟨fun s => do
  let target := s.states
  let n : Network := ⟨⟨← s.add? 1 0, .blank 10000⟩, [⟨[], none⟩]⟩
  let ⟨finished, drafts⟩ ← sequences.foldlM (Network.add? target) n
  let (_, finished) ← finished.finishAll? target drafts
  return ⟨finished.size, false⟩⟩

/-- Adds the states of a sequence that is read from its end, those before a shared beginning only. -/
def addBackward? (state : Size × Memory (Nat × ByteRange)) (target : Nat) :
    List ByteRange → Option (Size × Memory (Nat × ByteRange))
  | [] => some state
  | r :: rs =>
    let numbers (key : Nat × ByteRange) : List Nat := [key.1, key.2.first, key.2.last]
    match state.2.find? numbers (target, r) with
    | some known => addBackward? state known rs
    | none => do
      let fresh := state.1.states
      addBackward? (← state.1.add? 1 0, state.2.insert numbers (target, r) fresh) fresh rs

/-- A machine part for the sequences of a set, read backward, in which equal beginnings are shared. -/
def Piece.backward (sequences : List (List ByteRange)) : Piece := ⟨fun s => do
  let target := s.states + 1
  let start ← s.add? 2 (sequences.length * branchSize)
  let (size, _) ← sequences.foldlM (fun state sequence => addBackward? state target sequence)
    (start, .blank 1000)
  return ⟨size, false⟩⟩

/-- A part that reads one character of a set. -/
def Piece.ofSet (reverse : Bool) (s : CharSet) : Piece :=
  if s.isAscii then .states 2 (s.ranges.length * transitionSize)
  else if reverse then .backward s.byteSequences
  else .forward s.byteSequences

/-! ## Patterns -/

mutual

/-- The part of a machine that a pattern stands for. -/
def piece (reverse : Bool) : Pattern → Piece
  | empty | assertion _ => .states 1
  | literal cs => .states (String.ofList cs).utf8ByteSize
  | set s => .ofSet reverse s
  | repetition p least most _ =>
    let part := p.piece reverse
    match least, most with
    | 0, some 1 => part.optional
    | least, none => part.atLeast (p.leastLength?.any (0 < ·)) least
    | least, some most => if least = most then part.times least else part.between least most
  | group _ p => if reverse then p.piece reverse else (p.piece reverse).noted
  | concat ps =>
    let parts := pieces reverse ps
    .inSequence (if reverse then parts.reverse else parts)
  | alternation ps =>
    match ps.mapM literalBytes? with
    | some words => .ofWords reverse words
    | none => .inChoice (pieces reverse ps)

/-- The parts of a machine that some patterns stand for. -/
def pieces (reverse : Bool) : List Pattern → List Piece
  | [] => []
  | p :: ps => p.piece reverse :: pieces reverse ps

end

/-- Whether one of the parts of a sequence holds at its very beginning, given whether each does and whether
each is only empty. -/
def anchoredAmong : List (Bool × Bool) → Bool
  | [] => false
  | (anchored, onlyEmpty) :: rest => anchored || (onlyEmpty && anchoredAmong rest)

mutual

/-- Whether a pattern is seen to fit at the start of a text only, or, backward, at its end only. -/
def isAnchored (reverse : Bool) : Pattern → Bool
  | assertion a => a == if reverse then .textEnd else .textStart
  | repetition p least _ _ => 0 < least && p.isAnchored reverse
  | group _ p => p.isAnchored reverse
  | concat ps =>
    let parts := anchoredParts reverse ps
    anchoredAmong (if reverse then parts.reverse else parts)
  | alternation ps => areAnchored reverse ps
  | _ => false

/-- Of each pattern in a sequence, whether it is anchored and whether it is only empty. -/
def anchoredParts (reverse : Bool) : List Pattern → List (Bool × Bool)
  | [] => []
  | p :: ps => (p.isAnchored reverse, p.isOnlyEmpty) :: anchoredParts reverse ps

/-- Whether all of some patterns are anchored. -/
def areAnchored (reverse : Bool) : List Pattern → Bool
  | [] => true
  | p :: ps => p.isAnchored reverse && areAnchored reverse ps

end

/-- The machine for a pattern.  It begins with a loop over any bytes, unless the pattern fits at one place
only, and ends with a state that accepts. -/
def machine (reverse : Bool) (p : Pattern) : Piece :=
  let loop := Piece.atLeast (.states 2 transitionSize) true 0
  let start := if p.isAnchored reverse then Piece.states 1 else loop
  let whole := if reverse then p.piece reverse else (p.piece reverse).noted
  .inSequence [start, whole, .states 1]

/-- Whether one of the machines for a pattern is too large. -/
def isTooLarge (p : Pattern) : Bool :=
  ((p.machine false).build ⟨0, 0⟩).isNone || ((p.machine true).build ⟨0, 0⟩).isNone

end Lorawan.Pattern
