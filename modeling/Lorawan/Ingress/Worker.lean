import Lorawan.Ingress.Batch
import Lorawan.Ingress.Consumer

/-!
# The worker

A consumer whose processor is the server: the messages of a batch are routed, their handlers take turns in
any order, and their outcomes make the verdict.
-/

namespace Lorawan.Ingress

/-- A consumer, and the handlers of its batch. -/
structure Worker (σ : Type) where
  consumer : Consumer
  batch : Batch σ

/-- What happens to a worker. -/
inductive Worker.Event where
  | fetched (result : Except ErrorChain (List Message))
  /-- A handler makes its next call. -/
  | turn (number : Nat)
  /-- All handlers are done. -/
  | finished
  | settled
  | resumed
  | cancel
  | stop

namespace Worker

/-- A worker before its first fetch. -/
def start (w : World σ) : Worker σ := ⟨.start, ⟨[], w⟩⟩

/-- The same with a consumer that has gone on. -/
def withConsumer (w : Worker σ) (c : Option Consumer) : Option (Worker σ) :=
  c.map fun consumer => { w with consumer }

/-- The worker after an event, if that can happen now. -/
def step? (k : Conditions σ) (server : Server) (w : Worker σ) : Event → Option (Worker σ)
  | .fetched result => do
    let consumer ← w.consumer.step? (.fetched result)
    match consumer.phase with
    | .processing messages => return ⟨consumer, .start server messages w.batch.world⟩
    | _ => return { w with consumer }
  | .turn number =>
    match w.consumer.phase with
    | .processing _ => (w.batch.step? k number).map fun batch => { w with batch }
    | _ => none
  | .finished => do
    let verdict ← w.batch.verdict?
    w.withConsumer (w.consumer.step? (.processed (.ok verdict)))
  | .settled => w.withConsumer (w.consumer.step? .settled)
  | .resumed => w.withConsumer (w.consumer.step? .resumed)
  | .cancel => w.withConsumer (w.consumer.step? .cancel)
  | .stop => w.withConsumer (w.consumer.step? .stop)

/-- The worker after some events, if they can happen in this order. -/
def play? (k : Conditions σ) (server : Server) (w : Worker σ) (events : List Event) :
    Option (Worker σ) :=
  events.foldlM (step? k server) w

end Worker

end Lorawan.Ingress
