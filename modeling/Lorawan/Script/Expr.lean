import Lorawan.Script.Literal

/-!
# Expressions of scripts

The syntax tree of a script, and its description, which errors show when an expression stands where it
cannot be evaluated.
-/

namespace Lorawan.Script

/-- The operators on numbers; some of them also join or shift other values. -/
inductive ArithmeticOp where
  | add
  | subtract
  | divide
  | multiply
  | modulus
  deriving DecidableEq, Repr

/-- The comparisons. -/
inductive RelationOp where
  | less
  | lessEq
  | greater
  | greaterEq
  | equal
  | notEqual
  | isIn
  deriving DecidableEq, Repr

/-- The operators before an operand. -/
inductive UnaryOp where
  | not
  | doubleNot
  | minus
  | doubleMinus
  deriving DecidableEq, Repr

/-- An expression. -/
inductive Expr where
  | literal (l : Literal)
  | name (s : String)
  | list (items : List Expr)
  | map (entries : List (Expr × Expr))
  | arithmetic (left : Expr) (op : ArithmeticOp) (right : Expr)
  | relation (left : Expr) (op : RelationOp) (right : Expr)
  | unary (op : UnaryOp) (operand : Expr)
  | or (left right : Expr)
  | and (left right : Expr)
  | conditional (condition whenTrue whenFalse : Expr)
  | member (target : Expr) (name : String)
  | index (target : Expr) (position : Expr)
  | fields (target : Expr) (entries : List (String × Expr))
  | call (function : String) (target : Option Expr) (args : List Expr)
  deriving Repr, Inhabited

/-- The name of an operator. -/
def ArithmeticOp.describe : ArithmeticOp → String
  | add => "Add"
  | subtract => "Subtract"
  | divide => "Divide"
  | multiply => "Multiply"
  | modulus => "Modulus"

/-- The name of a comparison. -/
def RelationOp.describe : RelationOp → String
  | less => "LessThan"
  | lessEq => "LessThanEq"
  | greater => "GreaterThan"
  | greaterEq => "GreaterThanEq"
  | equal => "Equals"
  | notEqual => "NotEquals"
  | isIn => "In"

/-- The name of an operator. -/
def UnaryOp.describe : UnaryOp → String
  | not => "Not"
  | doubleNot => "DoubleNot"
  | minus => "Minus"
  | doubleMinus => "DoubleMinus"

/-- A construct with its parts. -/
def describeNode (name : String) (parts : List String) : String :=
  name ++ "(" ++ ", ".intercalate parts ++ ")"

namespace Expr

mutual

/-- An expression as a tree, for people. -/
def describe : Expr → String
  | literal l => describeNode "Atom" [l.describe]
  | name s => describeNode "Ident" [Text.quoted s]
  | list items => describeNode "List" [describeList (describeAll items)]
  | map entries => describeNode "Map" [describeList (describeEntries entries)]
  | arithmetic a op b => describeNode "Arithmetic" [a.describe, op.describe, b.describe]
  | relation a op b => describeNode "Relation" [a.describe, op.describe, b.describe]
  | unary op a => describeNode "Unary" [op.describe, a.describe]
  | or a b => describeNode "Or" [a.describe, b.describe]
  | and a b => describeNode "And" [a.describe, b.describe]
  | conditional c a b => describeNode "Ternary" [c.describe, a.describe, b.describe]
  | member a s => describeNode "Member" [a.describe, describeNode "Attribute" [Text.quoted s]]
  | index a i => describeNode "Member" [a.describe, describeNode "Index" [i.describe]]
  | fields a entries =>
    describeNode "Member" [a.describe, describeNode "Fields" [describeList (describeFields entries)]]
  | call f none args =>
    describeNode "FunctionCall"
      [describeNode "Ident" [Text.quoted f], "None", describeList (describeAll args)]
  | call f (some a) args =>
    describeNode "FunctionCall"
      [describeNode "Ident" [Text.quoted f], describeNode "Some" [a.describe],
        describeList (describeAll args)]

/-- Expressions one after the other. -/
def describeAll : List Expr → List String
  | [] => []
  | e :: rest => e.describe :: describeAll rest

/-- Pairs of expressions one after the other. -/
def describeEntries : List (Expr × Expr) → List String
  | [] => []
  | (k, v) :: rest => describeNode "" [k.describe, v.describe] :: describeEntries rest

/-- Named expressions one after the other. -/
def describeFields : List (String × Expr) → List String
  | [] => []
  | (s, e) :: rest => describeNode "" [Text.quoted s, e.describe] :: describeFields rest

end

end Expr

end Lorawan.Script
