import Lorawan.Ingress.Route

/-!
# Verdicts on batches

Messages come in batches, and a verdict says which of them are acknowledged and which are to be delivered
again.  It is carried out message by message, acknowledgements first.
-/

namespace Lorawan.Ingress

/-- A message of the broker.  One without a reply subject cannot be settled. -/
structure Message where
  subject : String
  payload : List UInt8
  reply : Option String
  deriving DecidableEq, Repr

/-- What becomes of the messages of a batch, by their number. -/
structure Verdict where
  ack : List Nat
  /-- To be delivered again, with the reason where there is one. -/
  nak : List (Nat × Option String)
  deriving DecidableEq, Repr

namespace Verdict

/-- The verdict on no message. -/
def empty : Verdict := ⟨[], []⟩

/-- All messages are acknowledged. -/
def ackAll (count : Nat) : Verdict := ⟨List.range count, []⟩

/-- All messages are to be delivered again. -/
def nakAll (count : Nat) (reason : Option String) : Verdict :=
  ⟨[], (List.range count).map (·, reason)⟩

/-- The verdict with the outcome of one more message. -/
def add (v : Verdict) (number : Nat) : Outcome → Verdict
  | .ack => { v with ack := v.ack ++ [number] }
  | .nak reason => { v with nak := v.nak ++ [(number, some reason)] }

/-- The verdict that the outcomes of the messages make. -/
def ofOutcomes (outcomes : List Outcome) : Verdict :=
  outcomes.zipIdx.foldl (fun v (outcome, number) => v.add number outcome) empty

end Verdict

/-- How often a message is delivered, and after what delay. -/
structure RedeliveryPolicy where
  /-- The number of deliveries, the first one included. -/
  maxDeliver : Int64
  /-- The delay before the next delivery, in milliseconds. -/
  nakDelayMs : Nat
  deriving DecidableEq, Repr

/-- Ten deliveries, five seconds apart. -/
def RedeliveryPolicy.standard : RedeliveryPolicy := ⟨10, 5000⟩

/-- The settlement of one message. -/
structure Settlement where
  number : Nat
  positive : Bool
  deriving DecidableEq, Repr

namespace Settlement

/-- What is answered on the reply subject: nothing for an acknowledgement, else the delay in nanoseconds. -/
def body (policy : RedeliveryPolicy) (s : Settlement) : String :=
  if s.positive then ""
  else "-NAK \x7b\"delay\":" ++ toString (policy.nakDelayMs * 1000000) ++ "\x7d"

/-- The reply subject and the answer, if the message is in the batch and can be settled. -/
def reply? (policy : RedeliveryPolicy) (batch : List Message) (s : Settlement) :
    Option (String × String) := do
  let m ← batch[s.number]?
  let subject ← m.reply
  return (subject, s.body policy)

end Settlement

/-- The settlements that carry out a verdict, in order. -/
def Verdict.settlements (v : Verdict) : List Settlement :=
  v.ack.map (⟨·, true⟩) ++ v.nak.map fun (number, _) => ⟨number, false⟩

end Lorawan.Ingress
