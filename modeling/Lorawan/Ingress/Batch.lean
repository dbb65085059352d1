import Lorawan.Ingress.Verdict
import Lorawan.Service.World

/-!
# Batches in progress

All messages of a batch are handled at the same time: each has a handler, and the handlers go forward one
call at a time, in any order.  The verdict is there when all of them are done.  One handler that is cut
short takes the whole batch with it.
-/

namespace Lorawan.Ingress

/-- The handlers of a batch, in the order of its messages, and the world they share. -/
structure Batch (σ : Type) where
  handlers : List (Program Outcome)
  world : World σ

namespace Batch

/-- The handlers of some messages before their first call. -/
def start (server : Server) (messages : List Message) (w : World σ) : Batch σ :=
  ⟨messages.map fun m => route server m.subject m.payload, w⟩

/-- One call of a handler, if it has one to make. -/
def step? (k : Conditions σ) (b : Batch σ) (number : Nat) : Option (Batch σ) := do
  let handler ← b.handlers[number]?
  let (handler, world) ← handler.step? (World.answer k) b.world
  return ⟨b.handlers.set number handler, world⟩

/-- Gives turns to the handlers; a turn of one that is done changes nothing. -/
def play (k : Conditions σ) (b : Batch σ) (turns : List Nat) : Batch σ :=
  turns.foldl (fun b number => (b.step? k number).getD b) b

/-- The outcome of a handler that is done. -/
def outcome? : Program Outcome → Option Outcome
  | .done outcome => some outcome
  | _ => none

/-- The verdict, when all handlers are done. -/
def verdict? (b : Batch σ) : Option Verdict :=
  (b.handlers.mapM outcome?).map Verdict.ofOutcomes

/-- Lets the handlers run one after the other, each to its end, and gives the outcomes. -/
def runInOrder (k : Conditions σ) : List (Program Outcome) → World σ → Option (List Outcome) × World σ
  | [], w => (some [], w)
  | p :: rest, w =>
    match w.run k p with
    | (none, w) => (none, w)
    | (some outcome, w) =>
      let (outcomes, w) := runInOrder k rest w
      (outcomes.map (outcome :: ·), w)

/-- The verdict when the messages are handled one after the other. -/
def process (k : Conditions σ) (server : Server) (messages : List Message) (w : World σ) :
    Option Verdict × World σ :=
  let (outcomes, w) := runInOrder k (start server messages w).handlers w
  (outcomes.map Verdict.ofOutcomes, w)

end Batch

end Lorawan.Ingress
