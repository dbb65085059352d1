import Lorawan.Text.CharSet

/-!
# Characters as sequences of bytes

A set of characters in UTF-8: a few sequences of byte ranges, such that each way to take a byte out of
every range of a sequence is a character of the set.
-/

namespace Lorawan.Text

/-- A range of bytes, both ends included. -/
structure ByteRange where
  first : Nat
  last : Nat
  deriving DecidableEq, Repr

/-- The codes that are written with the same number of bytes behind the first one: that number, the first
code and the last one.  The surrogates are left out. -/
def codeZones : List (Nat × Nat × Nat) :=
  [(0, 0, 0x7f), (1, 0x80, 0x7ff), (2, 0x800, 0xd7ff), (2, 0xe000, 0xffff), (3, 0x10000, 0x10ffff)]

/-- The first byte of a code that is written with some number of bytes behind it. -/
def leadByte (more code : Nat) : Nat :=
  let bits := code >>> (6 * more)
  match more with
  | 0 => bits
  | 1 => 0xc0 + bits
  | 2 => 0xe0 + bits
  | _ => 0xf0 + bits

/-- The bytes of a code that is written with some number of bytes behind the first one. -/
def bytesOfCode (more code : Nat) : List Nat :=
  leadByte more code
    :: (List.range more).map fun i => 0x80 + (code >>> (6 * (more - 1 - i))) % 64

/-- A range of codes in parts, the last of which has all codes of its blocks or lies in one block. -/
def cutEnd (block : Nat) (range : Nat × Nat) : List (Nat × Nat) :=
  let (first, last) := range
  if first / block ≠ last / block && last % block ≠ block - 1 then
    let start := last - last % block
    [(first, start - 1), (start, last)]
  else [range]

/-- A range of codes in parts, each of which has all codes of its blocks or lies in one block. -/
def cutBlocks (block : Nat) (range : Nat × Nat) : List (Nat × Nat) :=
  let (first, last) := range
  if first / block ≠ last / block && first % block ≠ 0 then
    let stop := first - first % block + (block - 1)
    (first, stop) :: cutEnd block (stop + 1, last)
  else cutEnd block range

/-- The sequences for a range of codes with some number of bytes behind the first one: it is cut where the
last byte begins anew, then where the last two do, and so on. -/
def sequencesOfZone (more : Nat) (range : Nat × Nat) : List (List ByteRange) :=
  let parts := (List.range more).foldl
    (fun parts i => parts.flatMap (cutBlocks (1 <<< (6 * (i + 1))))) [range]
  parts.map fun (first, last) =>
    List.zipWith ByteRange.mk (bytesOfCode more first) (bytesOfCode more last)

/-- The sequences for a range of codes. -/
def sequencesOfRange (first last : Nat) : List (List ByteRange) :=
  codeZones.flatMap fun (more, zoneFirst, zoneLast) =>
    let first := max first zoneFirst
    let last := min last zoneLast
    if first ≤ last then sequencesOfZone more (first, last) else []

/-- The sequences for a set of characters, in order. -/
def CharSet.byteSequences (s : CharSet) : List (List ByteRange) :=
  s.ranges.flatMap fun (first, last) =>
    sequencesOfRange (codeOfOrdinal first) (codeOfOrdinal last)

end Lorawan.Text
