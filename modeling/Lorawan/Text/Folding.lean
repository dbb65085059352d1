import Lorawan.Text.CharSet
import Lorawan.Text.Lowercase

/-!
# Letters in either case

Letters that differ in nothing but case.  Nearly all of them are a capital and its lower case; a few more
letters stand for one of these, such as the sigma at the end of a word.
-/

namespace Lorawan.Text

/-- The letters that stand for others in all but looks, by code, and the ones they stand for. -/
def variants : List (Nat × Nat) := [
  (0xb5, 0x3bc), (0x17f, 0x73), (0x345, 0x3b9), (0x3c2, 0x3c3), (0x3d0, 0x3b2), (0x3d1, 0x3b8),
  (0x3d5, 0x3c6), (0x3d6, 0x3c0), (0x3f0, 0x3ba), (0x3f1, 0x3c1), (0x3f5, 0x3b5),
  (0x1c80, 0x432), (0x1c81, 0x434), (0x1c82, 0x43e), (0x1c83, 0x441), (0x1c84, 0x442),
  (0x1c85, 0x442), (0x1c86, 0x44a), (0x1c87, 0x463), (0x1c88, 0xa64b), (0x1e9b, 0x1e61),
  (0x1fbe, 0x3b9), (0x1fd3, 0x390), (0x1fe3, 0x3b0), (0xfb05, 0xfb06)]

/-- The letters that stand for another one, by ordinal, and the other one. -/
def foldings : List (Nat × Nat) :=
  let ascii := (List.range 26).map fun i => (0x41 + i, 0x61 + i)
  let capitals := capitalRuns.toList.flatMap fun (first, last, step, lower) =>
    (List.range ((last - first) / step + 1)).map fun i => (first + i * step, lower + i * step)
  (ascii ++ capitals ++ variants).map fun (letter, plain) =>
    (ordinalOfCode letter, ordinalOfCode plain)

/-- The characters of a set and those that differ from one of them in nothing but case. -/
def CharSet.foldCase (s : CharSet) : CharSet :=
  let plain := foldings.filter fun (letter, plain) => s.holds letter && !s.holds plain
  let s := s.union (CharSet.ofOrdinals (plain.map Prod.snd))
  let letters := foldings.filter fun (letter, plain) => s.holds plain && !s.holds letter
  s.union (CharSet.ofOrdinals (letters.map Prod.fst))

/-- Whether a character has others that differ from it in nothing but case. -/
def hasCasePartner (c : Char) : Bool :=
  foldings.any fun (letter, plain) => letter = ordinal c || plain = ordinal c

end Lorawan.Text
