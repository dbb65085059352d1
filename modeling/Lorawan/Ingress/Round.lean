import Lorawan.Ingress.Consumer

/-!
# Rounds of a consumer

A round fetches a batch, has it processed and settles its messages.  On its way it asks the broker and
the processor, and goes on with what they answer: a round is done, or it asks and has a round for every
answer.  So it can be looked at with any answers, and be dropped wherever it waits for one.

The loop goes through one round after the other.  It pauses after a round that has failed, and ends when
it was told to stop and does so.
-/

namespace Lorawan.Ingress

/-- What a round asks for. -/
inductive Ask where
  /-- The next messages: how many at most, and for how many milliseconds to wait for them. -/
  | fetch (limit waitMs : Nat)
  /-- The verdict on a batch. -/
  | process (batch : List Message)
  /-- That this be answered on the reply subject of a message. -/
  | settle (m : Message) (body : String)
  /-- A warning that a verdict has a number which no message of the batch has. -/
  | warn (s : Settlement)

/-- The type of the answers. -/
@[reducible] def Ask.Answer : Ask → Type
  | fetch .. => Except ErrorChain (List Message)
  | process _ => Except ErrorChain Verdict
  | settle .. => Except ErrorChain Unit
  | warn _ => Unit

/-- A round, or what is left of it. -/
inductive Round where
  | done (result : Except ErrorChain Unit)
  | ask (a : Ask) (next : a.Answer → Round)

namespace Round

/-- Settles the messages with these numbers, and goes on.  Nothing depends on how a settlement ends. -/
def settleEach (c : Config) (batch : List Message) (positive : Bool) : List Nat → Round → Round
  | [], next => next
  | number :: rest, next =>
    let s : Settlement := ⟨number, positive⟩
    match batch[number]? with
    | some m => .ask (.settle m (s.body c.redelivery)) fun _ => settleEach c batch positive rest next
    | none => .ask (.warn s) fun _ => settleEach c batch positive rest next

/-- Carries out a verdict on a batch. -/
def settle (c : Config) (batch : List Message) (v : Verdict) : Round :=
  settleEach c batch true v.ack (settleEach c batch false (v.nak.map Prod.fst) (.done (.ok ())))

/-- A whole round. -/
def whole (c : Config) : Round :=
  .ask (.fetch c.batchSize c.batchWaitMs) fun
    | .error e => .done (.error e)
    | .ok [] => .done (.ok ())
    | .ok batch => .ask (.process batch) fun result =>
      settle c batch (Consumer.verdictOf batch.length result)

end Round

/-- What a loop has done: it has asked and got an answer, or it has paused for some milliseconds. -/
inductive Deed where
  | asked (a : Ask) (answer : a.Answer)
  | paused (ms : Nat)

/-- What a loop is doing. -/
inductive Loop.Stage where
  | working (r : Round)
  | pausing (ms : Nat)
  | ended (result : Except ErrorChain Unit)

/-- A loop of rounds. -/
structure Loop where
  stage : Loop.Stage
  /-- Whether it was told to stop. -/
  cancelled : Bool
  deeds : List Deed

/-- What happens to a loop. -/
inductive Loop.Event where
  /-- It gets the answer to what it asks for. -/
  | answered (answers : (a : Ask) → a.Answer)
  | resumed
  | cancel
  | stop

namespace Loop

/-- The stage in which a round goes on.  When it is over the next one begins, after a pause if it has
failed. -/
def Stage.following (c : Config) : Round → Stage
  | .done (.ok ()) => .working (.whole c)
  | .done (.error _) => .pausing pauseMs
  | r => .working r

/-- The pause that begins with a stage. -/
def Stage.pause : Stage → List Deed
  | .pausing ms => [.paused ms]
  | _ => []

/-- A loop before its first round. -/
def start (c : Config) : Loop := ⟨.working (.whole c), false, []⟩

/-- The loop after an event, if that can happen now. -/
def step? (c : Config) (l : Loop) : Event → Option Loop
  | .answered answers =>
    match l.stage with
    | .working (.ask a next) =>
      let stage := Stage.following c (next (answers a))
      some { l with stage, deeds := l.deeds ++ .asked a (answers a) :: stage.pause }
    | _ => none
  | .resumed =>
    match l.stage with
    | .pausing _ => some { l with stage := .working (.whole c) }
    | _ => none
  | .cancel => some { l with cancelled := true }
  | .stop =>
    match l.stage with
    | .working _ => if l.cancelled then some { l with stage := .ended (.ok ()) } else none
    | _ => none

/-- The loop after some events, if they can happen in this order. -/
def play? (c : Config) (l : Loop) (events : List Event) : Option Loop := events.foldlM (step? c) l

end Loop

end Lorawan.Ingress
