import Lorawan.Halt
import Lorawan.Script.Expr
import Lorawan.Script.Value

/-!
# Errors of evaluation

Why a script has no value, and the wording of each cause.
-/

namespace Lorawan.Script

/-- The cause of a failed evaluation. -/
inductive ScriptError where
  | argumentCount (expected actual : Nat)
  | missingArgument
  | unexpectedType (got want : String)
  | undeclared (name : String)
  | noSuchKey (name : String)
  | keyType (v : Value)
  | notComparable (left right : Value)
  | unaryOperator (name : String) (operand : Value)
  | binaryOperator (name : String) (left right : Value)
  | mapIndex (index : Value)
  | listIndex (index : Value)
  | index (target index : Value)
  | fieldsConstruction (entries : List (String × Expr))
  /-- A function refused its arguments. -/
  | function (name detail : String)

/-- The wording of a failed evaluation. -/
def ScriptError.message : ScriptError → String
  | .argumentCount expected actual =>
    s!"Invalid argument count: expected {expected}, got {actual}"
  | .missingArgument => "Missing argument or target"
  | .unexpectedType got want => s!"Unexpected type: got '{got}', want '{want}'"
  | .undeclared name => s!"Undeclared reference to '{name}'"
  | .noSuchKey name => s!"No such key: {name}"
  | .keyType v => s!"Unable to use value '{v.describe}' as a key"
  | .notComparable a b => s!"{a.describe} can not be compared to {b.describe}"
  | .unaryOperator name a => s!"Unsupported unary operator '{name}': {a.describe}"
  | .binaryOperator name a b =>
    s!"Unsupported binary operator '{name}': {a.describe}, {b.describe}"
  | .mapIndex i => s!"Cannot use value as map index: {i.describe}"
  | .listIndex i => s!"Cannot use value as list index: {i.describe}"
  | .index v i => s!"Cannot use value {v.describe} to index {i.describe}"
  | .fieldsConstruction entries =>
    "Unsupported fields construction: "
      ++ describeNode "Fields" [describeList (Expr.describeFields entries)]
  | .function name detail => s!"Error executing function '{name}': {detail}"

/-- An evaluation that gives a value, fails, or is cut short. -/
abbrev Evaluation (α : Type) := Attempt ScriptError α

end Lorawan.Script
