import Lorawan.Decimal.Reading

/-!
# Numerals of JSON

The digits of a number as they are written, and the number they stand for.  A numeral without fraction
and exponent is an integer if it fits into 64 bits; every other numeral is a double, and one beyond the
range of doubles is no number at all.
-/

namespace Lorawan.Json

/-- A numeral: sign, digits before the point, digits after it if there is a point, and the exponent's sign
and digits if there is one. -/
structure Numeral where
  negative : Bool
  whole : List Nat
  fraction : Option (List Nat)
  exponent : Option (Bool × List Nat)
  deriving DecidableEq, Inhabited, Repr

/-- A number that is an integer or a double. -/
inductive Number where
  | int (n : Int)
  | float (x : Float)

/-- The leading digits that still fit into a word when read after `m`, and the digits left over. -/
def takeDigits (limit : Nat) (m : Nat) : List Nat → Nat × List Nat
  | [] => (m, [])
  | d :: ds => if m * 10 + d ≤ limit then takeDigits limit (m * 10 + d) ds else (m, d :: ds)

namespace Numeral

/-- The largest significand. -/
def maxSignificand : Nat := UInt64.size - 1

/-- The largest exponent that is read. -/
def maxExponent : Nat := 2147483647

/-- A double with the numeral's sign. -/
def signed (n : Numeral) (x : Float) : Float := if n.negative then -x else x

/-- The value as a double: digits beyond the 64-bit significand only shift the point, or are dropped if
they stand after it. -/
def toFloat? (n : Numeral) : Option Float :=
  let (m, excess) := takeDigits maxSignificand 0 n.whole
  let fraction := n.fraction.getD []
  let (m, dropped) := takeDigits maxSignificand m fraction
  let shift : Int := excess.length - (fraction.length - dropped.length : Nat)
  match n.exponent with
  | none => (Decimal.scaled m.toUInt64 shift).map n.signed
  | some (negative, ds) =>
    match takeDigits maxExponent 0 ds with
    | (e, []) =>
      let e : Int := if negative then shift - e else shift + e
      (Decimal.scaled m.toUInt64 e).map n.signed
    | _ => if m ≠ 0 ∧ !negative then none else some (n.signed 0.0)

/-- The number that the numeral stands for. -/
def value? (n : Numeral) : Option Number :=
  match n.fraction, n.exponent, takeDigits maxSignificand 0 n.whole with
  | none, none, (m, []) =>
    if n.negative then
      if 0 < m ∧ Int64.minValue.toInt ≤ -(m : Int) then some (.int (-(m : Int))) else n.toFloat?.map .float
    else some (.int m)
  | _, _, _ => n.toFloat?.map .float

/-- The numeral of an integer. -/
def ofInt (k : Int) : Numeral :=
  ⟨k < 0, (Nat.toDigits 10 k.natAbs).filterMap Decimal.digit?, none, none⟩

end Numeral

end Lorawan.Json
