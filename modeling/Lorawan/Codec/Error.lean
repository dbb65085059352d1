/-!
# Errors of payload decoding

Why a payload could not be turned into an object.
-/

namespace Lorawan

/-- The cause of a decoding failure. -/
inductive PayloadError where
  /-- Fewer bytes than the next item needs. -/
  | insufficientData (expected actual : Nat)
  /-- A sensor type that is not in the table. -/
  | unsupportedType (code : UInt8)
  /-- The script is not an expression. -/
  | scriptCompilation (detail : String)
  /-- The script's evaluation failed. -/
  | scriptExecution (detail : String)
  /-- The script's value has no place in a JSON document. -/
  | invalidJsonOutput
  deriving DecidableEq, Repr

/-- The wording of a decoding failure. -/
def PayloadError.message : PayloadError → String
  | .insufficientData expected actual =>
    s!"insufficient data: expected at least {expected} bytes, got {actual}"
  | .unsupportedType code => s!"unsupported sensor type: {code.toNat}"
  | .scriptCompilation detail => s!"script compilation error: {detail}"
  | .scriptExecution detail => s!"script execution error: {detail}"
  | .invalidJsonOutput => "script returned a value that cannot be represented as JSON"

end Lorawan
