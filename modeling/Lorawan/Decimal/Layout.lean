import Lorawan.Decimal.Shortest

/-!
# Layouts of decimal numbers

How the digits of a double are set out: where the positional form ends, whether a whole number keeps a
zero after its point, and the words for what is not a number.  Each place that writes doubles has one
layout.
-/

namespace Lorawan.Decimal

/-- How doubles are written.  The positional form is used while the number of digits before the point
(counted negatively for zeros after it) lies within `positional`; without bounds it is always used. -/
structure Layout where
  positional : Option (Int × Int)
  pointZero : Bool
  deriving Repr

namespace Layout

/-- Numbers in a JSON document: a point or an exponent always stands, so that a whole double is not taken
for an integer. -/
def json : Layout := ⟨some (-4, 16), true⟩

/-- Numbers inside a described value. -/
def described : Layout := ⟨some (-3, 16), true⟩

/-- Numbers turned to text by a script: never an exponent, and no needless zero. -/
def plain : Layout := ⟨none, false⟩

/-- The positional form of `ds * 10 ^ k`. -/
def positionalForm (layout : Layout) (ds : List Char) (k : Int) : List Char :=
  if k ≥ 0 then
    ds ++ List.replicate k.toNat '0' ++ (if layout.pointZero then ['.', '0'] else [])
  else
    let places := (-k).toNat
    if places < ds.length then
      ds.take (ds.length - places) ++ '.' :: ds.drop (ds.length - places)
    else '0' :: '.' :: List.replicate (places - ds.length) '0' ++ ds

/-- The form with an exponent: one digit before the point. -/
def exponentForm (ds : List Char) (k : Int) : List Char :=
  let mantissa :=
    match ds with
    | d :: e :: rest => d :: '.' :: e :: rest
    | ds => ds
  mantissa ++ 'e' :: (toString (k + ds.length - 1)).toList

/-- The digits of a positive number set out. -/
def set (layout : Layout) (d : Digits) : List Char :=
  let ds := Nat.toDigits 10 d.digits
  let point : Int := d.exponent + ds.length
  match layout.positional with
  | none => layout.positionalForm ds d.exponent
  | some (lowest, highest) =>
    if lowest ≤ point ∧ point ≤ highest then layout.positionalForm ds d.exponent
    else exponentForm ds d.exponent

/-- A double as text. -/
def format (layout : Layout) (x : Float) : String :=
  let signed (negative : Bool) (cs : List Char) : String :=
    String.ofList (if negative then '-' :: cs else cs)
  match classify x with
  | .zero negative => signed negative (if layout.pointZero then ['0', '.', '0'] else ['0'])
  | .finite negative b => signed negative (layout.set b.shortest)
  | .infinite negative => signed negative ['i', 'n', 'f']
  | .nan => "NaN"

end Layout

end Lorawan.Decimal
