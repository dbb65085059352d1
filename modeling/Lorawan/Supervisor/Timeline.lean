import Lorawan.Supervisor.Basic

/-!
# Timelines

What a supervised run looks like when the behaviour of every process and closer is laid down: how long it
waits, whether it listens to the token, and how it ends.  All that can go on at one moment does so before
anything is joined, in the order in which the processes began to wait; all that has ended is joined before
time goes on.
-/

namespace Lorawan.Supervisor

/-- How a process or a closer comes to its end, or that it never does. -/
inductive Ending where
  | ok
  | error (cause : ErrorChain)
  | panic
  | hang
  deriving DecidableEq, Repr

/-- What a process does, in this order. -/
structure Behaviour where
  name : String
  /-- It waits so many milliseconds. -/
  delayMs : Nat
  /-- Whether cancellation ends the wait. -/
  cancellable : Bool
  /-- Whether it then waits for cancellation. -/
  untilCancelled : Bool
  /-- Whether it then cancels the token itself. -/
  cancels : Bool
  ending : Ending
  deriving DecidableEq, Repr

/-- What is noted of a process. -/
inductive Mark where
  | start
  | cancelled
  | ok
  | error
  | panic
  deriving DecidableEq, Repr

/-- The word for a mark. -/
def Mark.label : Mark → String
  | start => "start"
  | cancelled => "cancelled"
  | ok => "ok"
  | error => "error"
  | panic => "panic"

/-- The last mark of a process that ends so, if it ends. -/
def Ending.mark? : Ending → Option Mark
  | ok => some .ok
  | error _ => some .error
  | panic => some .panic
  | hang => none

/-- The end that the supervisor joins, if there is one. -/
def Ending.end? : Ending → Option End
  | ok => some .ok
  | error cause => some (.error cause)
  | panic => some .panic
  | hang => none

/-- A mark with its time. -/
structure Note where
  ms : Nat
  name : String
  mark : Mark
  deriving DecidableEq, Repr

/-- The notes by time, and at one time by name. -/
def Note.sort (notes : List Note) : List Note :=
  notes.mergeSort fun a b => a.ms < b.ms || (a.ms = b.ms && a.name ≤ b.name)

/-- How far a process has come. -/
inductive Progress where
  | created
  /-- In its first wait. -/
  | delayed (due : Nat)
  /-- Waiting for the token. -/
  | listening
  | ended
  deriving DecidableEq, Repr

/-- The processes at some moment. -/
structure Timeline where
  now : Nat
  supervisor : Supervisor
  processes : List (Behaviour × Progress)
  /-- The numbers of the processes that can go on, in order. -/
  ready : List Nat
  /-- The numbers of those that wait, in the order in which they began to. -/
  waiting : List Nat
  /-- What has ended and is not joined. -/
  ended : List End
  /-- How many have been joined. -/
  joined : Nat
  /-- When the token is cancelled from outside. -/
  cancelAt : Option Nat
  notes : List Note

namespace Timeline

/-- The processes before they start. -/
def start (behaviours : List Behaviour) (cancelAt : Option Nat) : Timeline where
  now := 0
  supervisor := .start
  processes := behaviours.map (·, .created)
  ready := List.range behaviours.length
  waiting := []
  ended := []
  joined := 0
  cancelAt
  notes := []

/-- Adds a note about a process. -/
def note (t : Timeline) (b : Behaviour) (mark : Mark) : Timeline :=
  { t with notes := t.notes ++ [⟨t.now, b.name, mark⟩] }

/-- A process is at another point. -/
def setProgress (t : Timeline) (number : Nat) (b : Behaviour) (p : Progress) : Timeline :=
  { t with processes := t.processes.set number (b, p) }

/-- A process begins to wait. -/
def suspend (t : Timeline) (number : Nat) (b : Behaviour) (p : Progress) : Timeline :=
  { t.setProgress number b p with waiting := t.waiting ++ [number] }

/-- Some of the waiting processes can go on. -/
def wake (t : Timeline) (chosen : Behaviour × Progress → Bool) : Timeline :=
  let goesOn (number : Nat) : Bool := (t.processes[number]?).any chosen
  { t with
    ready := t.ready ++ t.waiting.filter goesOn
    waiting := t.waiting.filter fun number => !goesOn number }

/-- Whether cancellation lets a process go on. -/
def listens : Behaviour × Progress → Bool
  | (b, .delayed _) => b.cancellable
  | (_, .listening) => true
  | _ => false

/-- The token is cancelled. -/
def cancel (t : Timeline) : Timeline :=
  if t.supervisor.cancelled then t
  else { t with supervisor := t.supervisor.cancel }.wake listens

/-- The last part of a process. -/
def finish (t : Timeline) (number : Nat) (b : Behaviour) : Timeline :=
  let t := if b.cancels then t.cancel else t
  let t := match b.ending.mark? with
    | some mark => t.note b mark
    | none => t
  { t.setProgress number b .ended with ended := t.ended ++ b.ending.end?.toList }

/-- The part of a process after its first wait. -/
def afterDelay (t : Timeline) (number : Nat) (b : Behaviour) : Timeline :=
  if !b.untilCancelled then t.finish number b
  else if t.supervisor.cancelled then (t.note b .cancelled).finish number b
  else t.suspend number b .listening

/-- A process goes on until it waits or ends. -/
def resume (t : Timeline) (number : Nat) (b : Behaviour) : Progress → Timeline
  | .created =>
    let t := t.note b .start
    if b.delayMs = 0 then t.afterDelay number b
    else if b.cancellable && t.supervisor.cancelled then (t.note b .cancelled).afterDelay number b
    else t.suspend number b (.delayed (t.now + b.delayMs))
  | .delayed _ =>
    if b.cancellable && t.supervisor.cancelled then (t.note b .cancelled).afterDelay number b
    else t.afterDelay number b
  | .listening => (t.note b .cancelled).finish number b
  | .ended => t

/-- Whether a wait is over. -/
def isDue (now : Nat) : Behaviour × Progress → Bool
  | (_, .delayed due) => due ≤ now
  | _ => false

/-- When the next wait is over. -/
def nextTime? (t : Timeline) : Option Nat :=
  let times := t.waiting.filterMap fun number =>
    match t.processes[number]?.map Prod.snd with
    | some (Progress.delayed due) => some due
    | _ => none
  (times ++ t.cancelAt.toList).min?

/-- What happens next, if anything does. -/
def advance? (t : Timeline) : Option Timeline :=
  match t.ready, t.ended with
  | number :: ready, _ =>
    let t := { t with ready }
    match t.processes[number]? with
    | some (b, p) => some (t.resume number b p)
    | none => some t
  | [], how :: ended =>
    let cancelled := t.supervisor.cancelled
    let t := { t with supervisor := t.supervisor.join how, ended, joined := t.joined + 1 }
    some (if t.supervisor.cancelled && !cancelled then t.wake listens else t)
  | [], [] =>
    if t.joined = t.processes.length then none
    else
      t.nextTime?.map fun now =>
        let t := { t with now }.wake (isDue now)
        if t.cancelAt = some now then { t with cancelAt := none }.cancel else t

/-- Goes on as long as something happens. -/
def advanceAll : (fuel : Nat) → Timeline → Timeline
  | 0, t => t
  | fuel + 1, t =>
    match t.advance? with
    | none => t
    | some t => advanceAll fuel t

/-- The timeline when all processes have been joined, unless that never happens.  Every process goes on at
most three times and is joined once, and time goes on at most once for each and once for the outside. -/
def run? (behaviours : List Behaviour) (cancelAt : Option Nat) : Option Timeline :=
  let t := advanceAll (5 * behaviours.length + 2) (start behaviours cancelAt)
  if t.joined = behaviours.length then some t else none

end Timeline

/-! ## Closers -/

/-- How long a closer takes, if it ends at all. -/
def Behaviour.closingMs? (b : Behaviour) : Option Nat :=
  if b.ending = .hang then none else some b.delayMs

/-- How long the closers keep the run from returning. -/
def closingMs (timeoutMs : Nat) (closers : List Behaviour) : Nat :=
  closers.foldl (fun ms b => max ms (min timeoutMs (b.closingMs?.getD timeoutMs))) 0

/-- The notes of a closer that is started at a time.  One that would need all of the time it is given is
dropped before it ends. -/
def Behaviour.closerNotes (start timeoutMs : Nat) (b : Behaviour) : List Note :=
  ⟨start, b.name, .start⟩ ::
    match b.ending.mark? with
    | some mark => if b.delayMs = 0 ∨ b.delayMs < timeoutMs then [⟨start + b.delayMs, b.name, mark⟩] else []
    | none => []

/-- What is known of a run that has returned. -/
structure Report where
  result : Except ErrorChain Unit
  elapsedMs : Nat
  cancelled : Bool
  notes : List Note

/-- The report of a run, unless its processes never end. -/
def report? (processes closers : List Behaviour) (timeoutMs : Nat) (cancelAt : Option Nat) :
    Option Report :=
  (Timeline.run? processes cancelAt).map fun t =>
    let elapsedMs := t.now + closingMs timeoutMs closers
    { result := t.supervisor.result
      elapsedMs
      cancelled := t.supervisor.cancelled || t.cancelAt.any (· ≤ elapsedMs)
      notes := Note.sort (t.notes ++ closers.flatMap (·.closerNotes t.now timeoutMs)) }

end Lorawan.Supervisor
