import Lorawan.Codec.Error
import Lorawan.Script.Evaluation
import Lorawan.Script.Grammar

/-!
# Payloads decoded by scripts

A script sees the payload as `input` and the port as `f_port`; its value is the decoded object.  A script
can be cut short, and then there is not even an error.
-/

namespace Lorawan.Script

/-- The scope in which a decoder script is evaluated. -/
def payloadScope (port : UInt8) (payload : List UInt8) : Scope :=
  [("input", .bytes payload), ("f_port", .int (Int64.ofNat port.toNat))]

/-- Decodes a payload by a script. -/
def decode (script : String) (port : UInt8) (payload : List UInt8) : Attempt PayloadError Json := do
  let e ← (Expr.parse script).mapError fun fault =>
    .scriptCompilation s!"Error parsing: {fault.message}"
  let v ← (e.eval (payloadScope port payload)).mapError fun cause =>
    .scriptExecution cause.message
  Attempt.ofOption .invalidJsonOutput v.toJson?

end Lorawan.Script
