import Lorawan.Request
import Lorawan.Service.Program

/-!
# Activation

A join gives a device a new session: the session key is taken out of its envelope, the activation is
stored, and the integration is told.
-/

namespace Lorawan.Service

/-- Gives a device the session of a join. -/
def activate (keks : KekSet) (d : Device) (a : Application) (context : ActivationContext) :
    Service Activation := do
  let some envelope := context.appSKey | throw .missingSessionKey
  let appSKey ← ofAttempt ((Attempt.ofExcept (keks.resolve envelope)).mapError .crypto)
  let activation ← createActivation d.devEui context.devAddr appSKey
  let n := Notification.join ⟨.of a d, context.devAddr⟩
  record n
  deliver n
  return activation

end Lorawan.Service
