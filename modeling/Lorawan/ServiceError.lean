import Lorawan.Crypto.Error

/-!
# Errors of the services

The causes for which an operation of the application server fails, their wording, and which of them are
worth another attempt.
-/

namespace Lorawan

/-- An error together with the errors that caused it, outermost first. -/
structure ErrorChain where
  outermost : String
  causes : List String := []
  deriving DecidableEq, Repr

/-- The whole chain on one line. -/
def ErrorChain.joined (e : ErrorChain) : String := ": ".intercalate (e.outermost :: e.causes)

/-- Why an operation failed. -/
inductive ServiceError where
  | invalidArgument (detail : String)
  | deviceNotFound (device : String)
  | applicationNotFound (id : Int64)
  | deviceActivationNotFound (device : String)
  /-- The activation context carries no key envelope. -/
  | missingSessionKey
  | crypto (cause : CryptoError)
  | codec (detail : String)
  /-- The integration did not take a notification. -/
  | integrationDispatch (detail : String)
  | eventLog (detail : String)
  /-- Storage did not answer. -/
  | repository (cause : ErrorChain)
  /-- A stored row that is not a record of the domain. -/
  | corruptRecord (detail : String)
  | validation (detail : String)
  deriving DecidableEq, Repr

namespace ServiceError

/-- The wording of a service error. -/
def message : ServiceError → String
  | .invalidArgument detail => s!"Invalid argument: {detail}"
  | .deviceNotFound device => s!"Device not found: {device}"
  | .applicationNotFound id => s!"Application not found: {id.toInt}"
  | .deviceActivationNotFound device => s!"Device activation not found for device: {device}"
  | .missingSessionKey => "Device activation context is missing the AppSKey envelope"
  | .crypto cause => s!"Crypto error: {cause.message}"
  | .codec detail => s!"Codec error: {detail}"
  | .integrationDispatch detail => s!"Integration dispatch error: {detail}"
  | .eventLog detail => s!"Event log error: {detail}"
  | .repository cause => s!"Repository error: {cause.outermost}"
  | .corruptRecord detail => s!"Corrupt record: {detail}"
  | .validation detail => s!"Validation error: {detail}"

/-- Whether another attempt may succeed: storage and dispatch failures pass, all else stays. -/
def isRetryable : ServiceError → Bool
  | .repository _ | .integrationDispatch _ => true
  | _ => false

end ServiceError

end Lorawan
