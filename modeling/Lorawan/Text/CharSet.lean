import Lorawan.Hex
import Lorawan.Text.Split

/-!
# Sets of characters

A set is kept as the places where membership changes when all characters are gone through in order, so
that the complement and every way to join two sets are short walks over such lists.  The surrogates are
no characters: the one after the last character before them is the first one behind them.

Main statement: `contains_complement`, a character is in the complement exactly when it is not in the set.
-/

namespace Lorawan.Text

/-- The number of characters. -/
def charCount : Nat := 0x10f800

/-- The number of characters before the one with a code, the code itself less the surrogates before it. -/
def ordinalOfCode (code : Nat) : Nat := if code < 0xd800 then code else code - 0x800

/-- The code of the character with some number of characters before it. -/
def codeOfOrdinal (n : Nat) : Nat := if n < 0xd800 then n else n + 0x800

/-- The number of characters before a character. -/
def ordinal (c : Char) : Nat := ordinalOfCode c.toNat

/-- A set of characters: the ordinals at which membership changes, in order, the first of them being that
of the first member. -/
structure CharSet where
  changes : List Nat
  deriving DecidableEq, Repr, Inhabited

namespace CharSet

/-- The set of no character. -/
def empty : CharSet := ⟨[]⟩

/-- The set of all characters. -/
def all : CharSet := ⟨[0]⟩

/-- The characters from one ordinal to another, both included. -/
def between (first last : Nat) : CharSet :=
  if last < first then empty
  else if last + 1 < charCount then ⟨[first, last + 1]⟩
  else ⟨[first]⟩

/-- The characters from one to another, both included. -/
def range (first last : Char) : CharSet := between (ordinal first) (ordinal last)

/-- The set of one character. -/
def single (c : Char) : CharSet := range c c

/-- Whether an ordinal lies inside, behind a place where one was inside or not. -/
def isInside : (inside : Bool) → List Nat → Nat → Bool
  | inside, [], _ => inside
  | inside, x :: xs, n => if n < x then inside else isInside (!inside) xs n

/-- Whether a set holds the character with some ordinal. -/
def holds (s : CharSet) (n : Nat) : Bool := isInside false s.changes n

/-- Whether a set holds a character. -/
def contains (s : CharSet) (c : Char) : Bool := s.holds (ordinal c)

/-- The characters that are not in a set. -/
def complement : CharSet → CharSet
  | ⟨0 :: xs⟩ => ⟨xs⟩
  | ⟨xs⟩ => ⟨0 :: xs⟩

/-- Where membership in a joined set changes, behind a place where one was inside the two sets or not. -/
def joinChanges (op : Bool → Bool → Bool) (a b : Bool) : List Nat → List Nat → List Nat
  | [], ys => if op a b == op a (!b) then [] else ys
  | xs, [] => if op a b == op (!a) b then [] else xs
  | x :: xs, y :: ys =>
    if x < y then
      let rest := joinChanges op (!a) b xs (y :: ys)
      if op a b == op (!a) b then rest else x :: rest
    else if y < x then
      let rest := joinChanges op a (!b) (x :: xs) ys
      if op a b == op a (!b) then rest else y :: rest
    else
      let rest := joinChanges op (!a) (!b) xs ys
      if op a b == op (!a) (!b) then rest else x :: rest
termination_by xs ys => xs.length + ys.length

/-- The characters of which `op` says so, given whether the one and the other set holds them; those of
neither set are left out. -/
def join (op : Bool → Bool → Bool) (s t : CharSet) : CharSet :=
  ⟨joinChanges op false false s.changes t.changes⟩

/-- The characters of either set. -/
def union (s t : CharSet) : CharSet := join (· || ·) s t

/-- The characters of both sets. -/
def inter (s t : CharSet) : CharSet := join (· && ·) s t

/-- The characters of the first set that are not in the second. -/
def diff (s t : CharSet) : CharSet := join (fun a b => a && !b) s t

/-- The characters of exactly one of two sets. -/
def symmDiff (s t : CharSet) : CharSet := join (· != ·) s t

/-- The characters of any of some sets. -/
def unionAll (ss : List CharSet) : CharSet := ss.foldl union empty

/-- Whether a set holds no character. -/
def isEmpty (s : CharSet) : Bool := s.changes.isEmpty

/-- The ranges between changes, first and last ordinal. -/
def rangesOf : List Nat → List (Nat × Nat)
  | [] => []
  | [first] => [(first, charCount - 1)]
  | first :: stop :: rest => (first, stop - 1) :: rangesOf rest

/-- The ranges of a set, first and last ordinal, in order and apart from each other. -/
def ranges (s : CharSet) : List (Nat × Nat) := rangesOf s.changes

/-- The one character of a set, if it has just one. -/
def single? (s : CharSet) : Option Char :=
  match s.ranges with
  | [(first, last)] => if first = last then some (Char.ofNat (codeOfOrdinal first)) else none
  | _ => none

/-- Whether a set holds ASCII characters only. -/
def isAscii (s : CharSet) : Bool := s.ranges.all fun (_, last) => last < 0x80

/-- The set of the characters with some ordinals. -/
def ofOrdinals (ns : List Nat) : CharSet := unionAll (ns.map fun n => between n n)

/-- The number that hexadecimal digits write. -/
def hexNumber (digits : List Char) : Nat :=
  (digits.filterMap Hex.value?).foldl (fun n d => n * 16 + d.val) 0

/-- The changes at the ends of a range of codes, written with a hyphen between the two codes, or of a
single code. -/
def changesOfText (range : List Char) : List Nat :=
  let first := range.takeWhile (· ≠ '-')
  let last := if first.length < range.length then range.drop (first.length + 1) else first
  [ordinalOfCode (hexNumber first), ordinalOfCode (hexNumber last) + 1]

/-- The set that a text lists: hexadecimal codes and ranges of them with blanks or line feeds between, in
order and apart from each other. -/
def ofText (s : String) : CharSet :=
  let ranges := (Text.split '\n' s.toList).flatMap (Text.split ' ')
  ⟨((ranges.filter (!·.isEmpty)).flatMap changesOfText).filter (· < charCount)⟩

/-! ## What the operations do to membership -/

theorem isInside_not (inside : Bool) (xs : List Nat) (n : Nat) :
    isInside (!inside) xs n = !isInside inside xs n := by
  induction xs generalizing inside with
  | nil => rfl
  | cons x xs ih =>
    by_cases h : n < x
    · simp [isInside, h]
    · simp [isInside, h, ih]

theorem contains_complement (s : CharSet) (c : Char) : s.complement.contains c = !s.contains c := by
  have h := isInside_not true
  simp only [Bool.not_true] at h
  unfold contains holds
  obtain ⟨xs⟩ := s
  match xs with
  | [] => rfl
  | 0 :: xs => simp [complement, isInside, ← h]
  | (x + 1) :: xs => simp [complement, isInside, h]

end CharSet

end Lorawan.Text
