/-!
# Reading decimal numbers

Texts as doubles.  `exact` rounds a decimal number to the nearest double.  `scaled` rounds the leading
digits to a double first and then scales by a power of ten, rounding again: the quicker rule that the JSON
reader uses.
-/

namespace Lorawan.Decimal

/-- The value of a decimal digit. -/
def digit? (c : Char) : Option Nat :=
  if '0' ≤ c ∧ c ≤ '9' then some (c.toNat - 48) else none

/-- The number that some decimal digits write. -/
def ofDigits (ds : List Nat) : Nat := ds.foldl (fun n d => n * 10 + d) 0

/-- The double nearest to `m * 10 ^ e`.  Exponents beyond the range of doubles are settled without the
power being formed. -/
def exact (m : Nat) (e : Int) : Float :=
  let size : Int := e + (Nat.toDigits 10 m).length
  if m = 0 then 0.0
  else if size > 400 then 1.0 / 0.0
  else if size < -400 then 0.0
  else if e ≥ 0 then Float.ofScientific m false e.toNat
  else Float.ofScientific m true (-e).toNat

/-- A power of ten as a double. -/
def powerOfTen (e : Nat) : Float := Float.ofScientific 1 false e

/-- `x * 10 ^ e` in steps of at most `10 ^ 308`; nothing if it grows beyond the doubles. -/
def scaleSteps : (fuel : Nat) → Float → Int → Option Float
  | 0, x, _ => some x
  | fuel + 1, x, e =>
    if e.natAbs ≤ 308 then
      if e ≥ 0 then
        let y := x * powerOfTen e.toNat
        if y.isInf then none else some y
      else some (x / powerOfTen e.natAbs)
    else if x == 0.0 then some x
    else if e ≥ 0 then none
    else scaleSteps fuel (x / powerOfTen 308) (e + 308)

/-- `m * 10 ^ e`, the digits being rounded before they are scaled; nothing if it grows beyond the doubles.
Three steps bring every significand to zero. -/
def scaled (m : UInt64) (e : Int) : Option Float := scaleSteps 4 m.toFloat e

end Lorawan.Decimal
