import Lorawan.Service.Server

/-!
# Routing messages

A message of the network server names its event by the last part of its subject, and its payload is the
request.  What another attempt may mend is given back for redelivery.  All else is acknowledged: an
unknown event, a payload that is no request, and an error that would come again.
-/

namespace Lorawan.Ingress

/-- How a message is settled. -/
inductive Outcome where
  | ack
  /-- It is to be delivered again, for this reason. -/
  | nak (reason : String)
  deriving DecidableEq, Repr

/-- The part of a subject after its last dot. -/
def lastPart (subject : String) : String :=
  String.ofList (subject.toList.reverse.takeWhile (· ≠ '.')).reverse

/-- The event that a subject names. -/
def eventOf? (subject : String) : Option EventType := EventType.ofLabel? (lastPart subject)

/-- The request of a message. -/
def request? (subject : String) (payload : List UInt8) : Option Request := do
  let reader ← (eventOf? subject).bind Request.reader?
  (Json.decodeBytes reader payload).toOption

/-- How a message is settled whose operation ended so. -/
def Outcome.ofResult : Except ServiceError Unit → Outcome
  | .ok () => ack
  | .error e => if e.isRetryable then nak e.message else ack

/-- Carries out a message. -/
def route (server : Server) (subject : String) (payload : List UInt8) : Program Outcome :=
  match request? subject payload with
  | none => .done .ack
  | some r => do return .ofResult (← (server.handle r).program)

end Lorawan.Ingress
