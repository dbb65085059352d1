import Lorawan.Decimal.Shortest
import Lorawan.Script.Error

/-!
# Operators of scripts

What the operators do to values.  Integers wrap around at 64 bits; dividing them by zero, or the least of
them by minus one, cuts the evaluation short.
-/

namespace Lorawan.Script

/-- `num * 2 ^ exponent` as a double, where it is one. -/
def binaryFloat (num : Nat) (exponent : Int) : Float := (Float.ofNat num).scaleB exponent

/-- The remainder of two doubles, with the sign of the first; it is exact. -/
def floatRemainder (x y : Float) : Float :=
  match Decimal.classify x, Decimal.classify y with
  | .nan, _ | _, .nan | .infinite _, _ | _, .zero _ => 0.0 / 0.0
  | .zero _, _ | _, .infinite _ => x
  | .finite negative a, .finite _ b =>
    let e := min a.exponent b.exponent
    let m := a.mantissa <<< (a.exponent - e).toNat % (b.mantissa <<< (b.exponent - e).toNat)
    let r := binaryFloat m e
    if negative then -r else r

namespace ArithmeticOp

/-- The name of an operator in errors. -/
def label : ArithmeticOp → String
  | add => "add"
  | subtract => "sub"
  | divide => "div"
  | multiply => "mul"
  | modulus => "rem"

/-- The operator on integers with signs. -/
def onInts (op : ArithmeticOp) (a b : Int64) : Evaluation Value :=
  match op with
  | add => .ok (.int (a + b))
  | subtract => .ok (.int (a - b))
  | multiply => .ok (.int (a * b))
  | divide =>
    if b = 0 ∨ (a = Int64.minValue ∧ b = -1) then .abort else .ok (.int (a / b))
  | modulus =>
    if b = 0 ∨ (a = Int64.minValue ∧ b = -1) then .abort else .ok (.int (a % b))

/-- The operator on integers without signs. -/
def onUInts (op : ArithmeticOp) (a b : UInt64) : Evaluation Value :=
  match op with
  | add => .ok (.uint (a + b))
  | subtract => .ok (.uint (a - b))
  | multiply => .ok (.uint (a * b))
  | divide => if b = 0 then .abort else .ok (.uint (a / b))
  | modulus => if b = 0 then .abort else .ok (.uint (a % b))

/-- The operator on doubles. -/
def onFloats (op : ArithmeticOp) (a b : Float) : Value :=
  match op with
  | add => .float (a + b)
  | subtract => .float (a - b)
  | multiply => .float (a * b)
  | divide => .float (a / b)
  | modulus => .float (floatRemainder a b)

/-- A time so many nanoseconds later. -/
def shift (z : Time.Zoned) (nanos : Int) : Value := .timestamp { z with instant := z.instant.add nanos }

/-- The operator on values.  Numbers of one type, and doubles with any numbers, have all operators;
strings, lists and maps can be added; times and lengths of time can be added and subtracted. -/
def apply (op : ArithmeticOp) (left right : Value) : Evaluation Value :=
  match left, right, op with
  | .int a, .int b, op => op.onInts a b
  | .uint a, .uint b, op => op.onUInts a b
  | .float a, .float b, op => .ok (op.onFloats a b)
  | .int a, .float b, op => .ok (op.onFloats a.toFloat b)
  | .float a, .int b, op => .ok (op.onFloats a b.toFloat)
  | .uint a, .float b, op => .ok (op.onFloats a.toFloat b)
  | .float a, .uint b, op => .ok (op.onFloats a b.toFloat)
  | .text a, .text b, add => .ok (.text (a ++ b))
  | .list a, .list b, add => .ok (.list (a ++ b))
  | .map a, .map b, add => .ok (.map (b.foldl (fun entries (k, v) => insertEntry entries k v) a))
  | .duration a, .duration b, add => .ok (.duration (a + b))
  | .duration a, .duration b, subtract => .ok (.duration (a - b))
  | .timestamp z, .duration d, add => .ok (shift z d)
  | .duration d, .timestamp z, add => .ok (shift z d)
  | .timestamp z, .duration d, subtract => .ok (shift z (-d))
  | .timestamp a, .timestamp b, subtract =>
    .ok (.duration (a.instant.toNanos - b.instant.toNanos))
  | left, right, op => .fail (.binaryOperator op.label left right)

end ArithmeticOp

namespace RelationOp

/-- The order of two values, which must have one. -/
def order (left right : Value) : Evaluation Ordering :=
  .ofOption (.notComparable left right) (left.compare? right)

/-- Whether the first list stands somewhere in the second without a gap. -/
def occursIn [BEq α] (part : List α) : List α → Bool
  | [] => part.isEmpty
  | x :: xs => part.isPrefixOf (x :: xs) || occursIn part xs

/-- Whether the first value is part of the second. -/
def contains (left right : Value) : Evaluation Bool :=
  match left, right with
  | .text a, .text b => .ok (occursIn a.toList b.toList)
  | v, .list items => .ok (v.isMemberOf items)
  | v, .map entries =>
    .ok (match Key.ofValue? v with
      | some k => (entries.lookup k).isSome
      | none => false)
  | left, right => .fail (.notComparable left right)

/-- The comparison of two values. -/
def apply (op : RelationOp) (left right : Value) : Evaluation Bool :=
  match op with
  | less => return (← order left right) = .lt
  | lessEq => return (← order left right) ≠ .gt
  | greater => return (← order left right) = .gt
  | greaterEq => return (← order left right) ≠ .lt
  | equal => .ok (left.equal right)
  | notEqual => .ok (!left.equal right)
  | isIn => contains left right

end RelationOp

/-- The operator before an operand. -/
def UnaryOp.apply (op : UnaryOp) (v : Value) : Evaluation Value :=
  match op, v with
  | not, v => .ok (.bool !v.isTruthy)
  | doubleNot, v => .ok (.bool v.isTruthy)
  | minus, .int n => .ok (.int (-n))
  | minus, .float x => .ok (.float (-x))
  | minus, v => .fail (.unaryOperator "minus" v)
  | doubleMinus, .int n => .ok (.int n)
  | doubleMinus, .uint n => .ok (.uint n)
  | doubleMinus, .float x => .ok (.float x)
  | doubleMinus, v => .fail (.unaryOperator "negate" v)

end Lorawan.Script
