import Lorawan.Ingress.Verdict

/-!
# The consumer

A durable consumer of the broker fetches batches, hands each of them to a processor and settles the
messages by its verdict.  A processor that fails has all messages delivered again.  After a fetch that
failed there is a pause.  Nothing but cancellation ends the consumer, and it does so at any point but in a
pause.

The consumer is a machine that goes forward by events, so that its runs of any length and with any
fetches, verdicts and cancellations can be looked at.  `consume` is the run in which nobody cancels.
-/

namespace Lorawan.Ingress

/-- What a consumer is to read, and how. -/
structure Config where
  stream : String
  consumerName : String
  batchSize : Nat
  batchWaitMs : Nat
  redelivery : RedeliveryPolicy
  deriving DecidableEq, Repr

/-- Every event subject of the stream. -/
def Config.subjectFilter (c : Config) : String := c.stream ++ ".>"

/-- What the broker is asked for when the consumer is made.  Messages are settled one by one. -/
structure Subscription where
  stream : String
  name : String
  durableName : String
  subjectFilter : String
  maxDeliver : Int64
  deriving DecidableEq, Repr

/-- The subscription of a consumer, whose name also makes it durable. -/
def Config.subscription (c : Config) : Subscription :=
  ⟨c.stream, c.consumerName, c.consumerName, c.subjectFilter, c.redelivery.maxDeliver⟩

/-- The pause after a fetch that failed, in milliseconds. -/
def pauseMs : Nat := 1000

/-- What a consumer is doing. -/
inductive Phase where
  | fetching
  | processing (batch : List Message)
  | settling (batch : List Message) (left : List Settlement)
  | pausing
  | stopped
  deriving DecidableEq, Repr

/-- The phase in which a batch is settled, or the next one fetched if nothing is left to settle. -/
def Phase.settle (batch : List Message) : List Settlement → Phase
  | [] => fetching
  | left => settling batch left

/-- A consumer. -/
structure Consumer where
  phase : Phase
  /-- Whether it was told to stop. -/
  cancelled : Bool
  /-- The settlements that were attempted, each with its batch. -/
  attempts : List (List Message × Settlement)

/-- What happens to a consumer. -/
inductive Consumer.Event where
  | fetched (result : Except ErrorChain (List Message))
  | processed (result : Except ErrorChain Verdict)
  | settled
  | resumed
  | cancel
  | stop

namespace Consumer

/-- A consumer before its first fetch. -/
def start : Consumer := ⟨.fetching, false, []⟩

/-- The verdict of a processor: one that failed has all messages delivered again. -/
def verdictOf (count : Nat) : Except ErrorChain Verdict → Verdict
  | .ok v => v
  | .error e => .nakAll count (some e.outermost)

/-- The consumer after an event, if that can happen now. -/
def step? (c : Consumer) : Event → Option Consumer
  | .fetched result =>
    match c.phase, result with
    | .fetching, .error _ => some { c with phase := .pausing }
    | .fetching, .ok [] => some c
    | .fetching, .ok batch => some { c with phase := .processing batch }
    | _, _ => none
  | .processed result =>
    match c.phase with
    | .processing batch =>
      some { c with phase := .settle batch (verdictOf batch.length result).settlements }
    | _ => none
  | .settled =>
    match c.phase with
    | .settling batch (s :: left) =>
      some { c with phase := .settle batch left, attempts := c.attempts ++ [(batch, s)] }
    | _ => none
  | .resumed =>
    match c.phase with
    | .pausing => some { c with phase := .fetching }
    | _ => none
  | .cancel => some { c with cancelled := true }
  | .stop =>
    match c.phase with
    | .pausing | .stopped => none
    | _ => if c.cancelled then some { c with phase := .stopped } else none

/-- The consumer after some events, if they can happen in this order. -/
def play? (c : Consumer) (events : List Event) : Option Consumer := events.foldlM step? c

/-- The answers on the reply subjects, in order. -/
def replies (policy : RedeliveryPolicy) (c : Consumer) : List (String × String) :=
  c.attempts.filterMap fun (batch, s) => s.reply? policy batch

end Consumer

/-! ## A run without cancellation -/

/-- How a fetch ends, and how long it takes. -/
structure Fetch where
  delayMs : Nat
  result : Except ErrorChain (List Message)

/-- The events of one fetch, up to the next one. -/
def Fetch.events (processor : List Message → Except ErrorChain Verdict) (f : Fetch) : List Consumer.Event :=
  match f.result with
  | .error _ => [.fetched f.result, .resumed]
  | .ok [] => [.fetched f.result]
  | .ok batch =>
    let result := processor batch
    .fetched f.result :: .processed result
      :: (Consumer.verdictOf batch.length result).settlements.map fun _ => .settled

/-- How long a fetch keeps the consumer from the next one. -/
def Fetch.totalMs (f : Fetch) : Nat := f.delayMs + if f.result matches .error _ then pauseMs else 0

/-- The consumer after some fetches. -/
def consume (processor : List Message → Except ErrorChain Verdict) (fetches : List Fetch) : Consumer :=
  (Consumer.start.play? (fetches.flatMap (·.events processor))).getD .start

end Lorawan.Ingress
