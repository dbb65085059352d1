/-!
# Shortest decimal digits

The fewest decimal digits that read back as a given double, and among those the nearest to it.  A double
is taken apart into an integer times a power of two; the reals that round to it form an interval, whose
ends count exactly if the integer is even.  Going from coarse to fine powers of ten, the first grid that
has a point in the interval gives the digits, and of its two points around the double the nearer is
chosen.  All of it is exact integer arithmetic.
-/

namespace Lorawan.Decimal

/-- A positive double as `mantissa * 2 ^ exponent`.  `narrow` tells that the gap below it is half as wide
as the gap above it. -/
structure Binary where
  mantissa : Nat
  exponent : Int
  narrow : Bool
  deriving DecidableEq, Repr

/-- A decimal number `digits * 10 ^ exponent`. -/
structure Digits where
  digits : Nat
  exponent : Int
  deriving DecidableEq, Repr

/-- What a double is. -/
inductive Class where
  | zero (negative : Bool)
  | finite (negative : Bool) (value : Binary)
  | infinite (negative : Bool)
  | nan
  deriving DecidableEq, Repr

/-- The leading bit of a significand of full length, which is not stored: the fifty-third. -/
def hiddenBit : Nat := 1 <<< 52

/-- Takes a double apart by its bits. -/
def classify (x : Float) : Class :=
  let bits := x.toBits.toNat
  let negative := bits >>> 63 == 1
  let biased : Nat := bits >>> 52 % 2048
  let fraction := bits % hiddenBit
  if biased == 2047 then
    if fraction == 0 then .infinite negative else .nan
  else if biased == 0 then
    if fraction == 0 then .zero negative else .finite negative ⟨fraction, -1074, false⟩
  else .finite negative ⟨fraction + hiddenBit, (biased : Int) - 1075, fraction == 0 && biased > 1⟩

namespace Binary

/-- The numerator and denominator of a quarter of the unit in the last place. -/
def quarterUnit (b : Binary) : Nat × Nat :=
  let q := b.exponent - 2
  if q ≥ 0 then (1 <<< q.toNat, 1) else (1, 1 <<< (-q).toNat)

/-- Whether the positive fraction `num / den` lies among the reals that round to the double. -/
def covers (b : Binary) (num den : Nat) : Bool :=
  let (u, v) := b.quarterUnit
  let low := (4 * b.mantissa - (if b.narrow then 1 else 2)) * u * den
  let high := (4 * b.mantissa + 2) * u * den
  let x := num * v
  if b.mantissa % 2 == 0 then low ≤ x && x ≤ high else low < x && x < high

/-- The points of the grid of multiples of `10 ^ k` next to the double, the nearer first; of two equally
near ones the even multiple. -/
def neighbours (b : Binary) (k : Int) : Nat × Nat :=
  let (u, v) := b.quarterUnit
  let num := 4 * b.mantissa * u * (if k < 0 then Nat.pow 10 (-k).toNat else 1)
  let den := v * (if k < 0 then 1 else Nat.pow 10 k.toNat)
  let d := num / den
  let twice := 2 * (num % den)
  if twice < den ∨ (twice = den ∧ d % 2 = 0) then (d, d + 1) else (d + 1, d)

/-- Whether the double is what `d * 10 ^ k` reads back as. -/
def coversPoint (b : Binary) (d : Nat) (k : Int) : Bool :=
  if k < 0 then b.covers d (Nat.pow 10 (-k).toNat) else b.covers (d * Nat.pow 10 k.toNat) 1

/-- The digits on the first grid that has some, starting with the multiples of `10 ^ k`. -/
def search (b : Binary) : (fuel : Nat) → (k : Int) → Digits
  | 0, k => ⟨(b.neighbours k).1, k⟩
  | fuel + 1, k =>
    let (near, far) := b.neighbours k
    if b.coversPoint near k then ⟨near, k⟩
    else if b.coversPoint far k then ⟨far, k⟩
    else search b fuel (k - 1)

/-- A power of ten that is no smaller than the double, and at most some twentyfold of it. -/
def startExponent (b : Binary) : Int :=
  let bitCount : Int := b.exponent + b.mantissa.log2 + 1
  (bitCount * 30103).fdiv 100000 + 1

/-- The shortest digits of a positive double. -/
def shortest (b : Binary) : Digits := b.search 24 b.startExponent

end Binary

end Lorawan.Decimal
