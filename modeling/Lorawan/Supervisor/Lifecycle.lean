import Lorawan.Supervisor.Basic

/-!
# The life of a supervised run

A run as a machine: processes end at any time and in any order, and are joined at once; when the last one
has been joined the closers are called, one after the other, and each of them runs as a task of its own from
then on; when the closers have ended, or their time is over, the run returns.  Time goes on only while there
is something to wait for.

The run makes the calls itself and looks at nothing else meanwhile.  So a call that panics takes the run
with it, and one that blocks keeps it from looking at the clock; what a closer does once it is a task does
neither.
-/

namespace Lorawan.Supervisor

/-- What becomes of the call of a closer. -/
inductive Call where
  /-- It takes so many milliseconds and hands back what is to run as a task.  An asynchronous closer is
  handed back at once, for nothing of it runs before. -/
  | handsBack (ms : Nat)
  | panics (ms : Nat)
  | hangs
  deriving DecidableEq, Repr

/-- How long the call takes, if it is ever over. -/
def Call.ms? : Call → Option Nat
  | handsBack ms | panics ms => some ms
  | hangs => none

/-- How far a run has come. -/
inductive Stage where
  | supervising
  /-- The calls began then, and that of this closer then.  Of the closers before it these have not ended. -/
  | calling (since began number : Nat) (waiting : List Nat)
  /-- The calls began then and are over, and these closers have not ended. -/
  | closing (since : Nat) (waiting : List Nat)
  | returned
  /-- A call has panicked. -/
  | unwound
  deriving DecidableEq, Repr

/-- A run at some moment. -/
structure Run where
  now : Nat
  stage : Stage
  /-- The processes that have not ended. -/
  running : List Nat
  /-- The processes that have ended and are not joined yet, in the order in which they ended. -/
  ended : List (Nat × End)
  supervisor : Supervisor
  closers : List Call
  timeoutMs : Nat
  deriving DecidableEq, Repr

/-- What happens in a run. -/
inductive Move where
  /-- Some milliseconds go by. -/
  | wait (ms : Nat)
  | processEnds (number : Nat) (how : End)
  /-- The process that ended first is joined. -/
  | join
  /-- Someone else cancels the token. -/
  | cancel
  /-- The calls of the closers begin. -/
  | close
  /-- The call of a closer is over. -/
  | called
  /-- A closer has ended as a task, which is noted and nothing else. -/
  | closerEnds (number : Nat) (how : End)
  /-- The run returns, because all closers have ended or their time is over. -/
  | leave
  deriving DecidableEq, Repr

namespace Run

/-- A run of some processes and closers at its start. -/
def start (processes : Nat) (closers : List Call) (timeoutMs : Nat) : Run :=
  ⟨0, .supervising, List.range processes, [], .start, closers, timeoutMs⟩

/-- The stage in which the closers from this one on are to be called. -/
def callFrom (r : Run) (since number : Nat) (waiting : List Nat) : Stage :=
  if number < r.closers.length then .calling since r.now number waiting else .closing since waiting

/-- The run after a move, if that is possible now. -/
def step? (r : Run) : Move → Option Run
  | .wait ms =>
    match r.stage with
    | .supervising =>
      if r.ended = [] ∧ r.running ≠ [] then some { r with now := r.now + ms } else none
    | .calling _ began number _ =>
      match r.closers[number]? with
      | some call =>
        if ∀ callMs ∈ call.ms?, r.now + ms ≤ began + callMs then some { r with now := r.now + ms } else none
      | none => none
    | .closing since waiting =>
      if waiting ≠ [] ∧ r.now + ms ≤ since + r.timeoutMs then some { r with now := r.now + ms } else none
    | .returned | .unwound => none
  | .processEnds number how =>
    if number ∈ r.running then
      some { r with running := r.running.erase number, ended := r.ended ++ [(number, how)] }
    else none
  | .join =>
    match r.ended with
    | [] => none
    | (_, how) :: rest => some { r with ended := rest, supervisor := r.supervisor.join how }
  | .cancel => some { r with supervisor := r.supervisor.cancel }
  | .close =>
    if r.stage = .supervising ∧ r.running = [] ∧ r.ended = [] then
      some { r with stage := r.callFrom r.now 0 [] }
    else none
  | .called =>
    match r.stage with
    | .calling since began number waiting =>
      match r.closers[number]? with
      | some (.handsBack ms) =>
        if r.now = began + ms then
          some { r with stage := r.callFrom since (number + 1) (waiting ++ [number]) }
        else none
      | some (.panics ms) => if r.now = began + ms then some { r with stage := .unwound } else none
      | some .hangs | none => none
    | _ => none
  | .closerEnds number _ =>
    match r.stage with
    | .calling since began next waiting =>
      if number ∈ waiting then some { r with stage := .calling since began next (waiting.erase number) }
      else none
    | .closing since waiting =>
      if number ∈ waiting then some { r with stage := .closing since (waiting.erase number) } else none
    | _ => none
  | .leave =>
    match r.stage with
    | .closing since waiting =>
      if waiting = [] ∨ since + r.timeoutMs ≤ r.now then some { r with stage := .returned } else none
    | _ => none

/-- The run after some moves, if they are possible in this order. -/
def play? (r : Run) (moves : List Move) : Option Run := moves.foldlM step? r

/-- What the run gives once it has returned. -/
def result? (r : Run) : Option (Except ErrorChain Unit) :=
  if r.stage = .returned then some r.supervisor.result else none

end Run

end Lorawan.Supervisor
