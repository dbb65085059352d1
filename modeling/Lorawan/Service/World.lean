import Lorawan.Publication
import Lorawan.Service.Program

/-!
# The world of a service

A store, a clock, an event log and an integration, which answer the calls of a program.  Any call but a
look at the clock may fail instead, and then it changes nothing.  Every entry that was to be logged and
every notification that was to be sent is kept, in order and with its success.

The clock and the failures are given by the conditions.  They have a state of their own, so that they may
depend on anything that went before.  One kind of conditions is written out: a clock that stands still and
a list of faults, each of which makes one kind of call fail a number of times.
-/

namespace Lorawan

/-- What was to reach the outside. -/
inductive Effect where
  | logged (devEui : Eui64) (entry : EventLogEntry) (ok : Bool)
  | sent (n : Notification) (ok : Bool)

/-- When calls are made, and which of them fail. -/
structure Conditions (σ : Type) where
  clock : σ → Time.Instant × σ
  failure : Call → σ → Option ServiceError × σ

/-- The store, the state of the conditions, and what was to reach the outside so far. -/
structure World (σ : Type) where
  store : Store
  state : σ
  effects : List Effect

namespace World

/-- Carries out a call, unless it fails. -/
def guarded (k : Conditions σ) (c : Call) (w : World σ) (act : World σ → α × World σ) :
    Except ServiceError α × World σ :=
  match k.failure c w.state with
  | (some e, state) => (.error e, { w with state })
  | (none, state) =>
    let (a, w) := act { w with state }
    (.ok a, w)

/-- A call to the outside, which leaves its trace even if it fails. -/
def outward (k : Conditions σ) (c : Call) (effect : Bool → Effect) (w : World σ) :
    Except ServiceError Unit × World σ :=
  match k.failure c w.state with
  | (some e, state) => (.error e, { w with state, effects := w.effects ++ [effect false] })
  | (none, state) => (.ok (), { w with state, effects := w.effects ++ [effect true] })

/-- The answer to a call, and the world after it. -/
def answer (k : Conditions σ) : (c : Call) → World σ → c.Answer × World σ
  | .now, w =>
    let (time, state) := k.clock w.state
    (time, { w with state })
  | .getDevice devEui, w => w.guarded k (.getDevice devEui) fun w => (w.store.getDevice devEui, w)
  | .updateDevice devEui mutation, w => w.guarded k (.updateDevice devEui mutation) fun w =>
    let (d, store) := w.store.updateDevice devEui mutation
    (d, { w with store })
  | .getApplication id, w => w.guarded k (.getApplication id) fun w => (w.store.getApplication id, w)
  | .createActivation devEui devAddr appSKey, w =>
    w.guarded k (.createActivation devEui devAddr appSKey) fun w =>
      let (time, state) := k.clock w.state
      let (a, store) := w.store.insertActivation devEui devAddr appSKey time
      (a, { w with store, state })
  | .lastActivation devEui, w =>
    w.guarded k (.lastActivation devEui) fun w => (w.store.lastActivation devEui, w)
  | .getGateways ids, w => w.guarded k (.getGateways ids) fun w => (w.store.getGateways ids, w)
  | .log devEui entry, w => w.outward k (.log devEui entry) (.logged devEui entry)
  | .send n, w => w.outward k (.send n) (.sent n)

/-- Runs a program.  It has no result if it is cut short. -/
def run (k : Conditions σ) (p : Program α) (w : World σ) : Option α × World σ :=
  p.run (answer k) w

end World

/-! ## Destinations -/

/-- Where notifications go. -/
inductive Integration where
  /-- To a receiver that takes them as they are. -/
  | receiver
  /-- To the broker, under subjects with this root. -/
  | broker (root : String)
  /-- Nowhere: all are accepted and dropped. -/
  | disabled
  deriving DecidableEq, Repr

/-- Where log entries go. -/
inductive EventLog where
  /-- To a receiver that takes them as they are. -/
  | receiver
  /-- To the broker, under subjects with this root. -/
  | broker (root : String)
  deriving DecidableEq, Repr

/-- Where all that reaches the outside goes. -/
structure Destinations where
  integration : Integration
  eventLog : EventLog

/-- What can be seen from the outside. -/
inductive Observation where
  | logged (devEui : Eui64) (entry : EventLogEntry) (ok : Bool)
  | sent (n : Notification) (ok : Bool)
  | published (p : Publication) (ok : Bool)

/-- How an effect is seen at its destination. -/
def Destinations.observe (d : Destinations) : Effect → Option Observation
  | .logged devEui entry ok =>
    match d.eventLog with
    | .receiver => some (.logged devEui entry ok)
    | .broker root => some (.published (entry.publication root devEui) ok)
  | .sent n ok =>
    match d.integration with
    | .receiver => some (.sent n ok)
    | .broker root => some (.published (n.publication root) ok)
    | .disabled => none

/-! ## Faults -/

/-- The kinds of calls that can be made to fail. -/
inductive Seam where
  | getDevice
  | updateDevice
  | getApplication
  | createActivation
  | lastActivation
  | getGateways
  | log
  | send (type : EventType)
  deriving DecidableEq, Repr

/-- The kind of a call, if it can be made to fail. -/
def Call.seam? : Call → Option Seam
  | .now => none
  | .getDevice _ => some .getDevice
  | .updateDevice .. => some .updateDevice
  | .getApplication _ => some .getApplication
  | .createActivation .. => some .createActivation
  | .lastActivation _ => some .lastActivation
  | .getGateways _ => some .getGateways
  | .log .. => some .log
  | .send n => some (.send n.eventType)

/-- An error that comes at a place, a number of times or always. -/
structure Fault (κ ε : Type) where
  place : κ
  error : ε
  times : Option Nat

namespace Fault

variable {κ ε : Type} [DecidableEq κ]

/-- Whether the fault strikes there once more. -/
def strikes (f : Fault κ ε) (place : κ) : Bool := f.place = place && f.times != some 0

/-- The error of the first fault that strikes at a place, and the faults after that. -/
def strike (place : κ) : List (Fault κ ε) → Option ε × List (Fault κ ε)
  | [] => (none, [])
  | f :: rest =>
    if f.strikes place then (some f.error, { f with times := f.times.map (· - 1) } :: rest)
    else
      let (e, rest) := strike place rest
      (e, f :: rest)

end Fault

/-- The two publishers that lead to the broker. -/
inductive Publisher where
  | entries
  | notifications
  deriving DecidableEq, Repr

/-- The faults that are still to come: at calls, and at publishers. -/
structure Faults where
  calls : List (Fault Seam ServiceError)
  publishers : List (Fault Publisher ErrorChain)

namespace Faults

/-- The failure of a publisher, as the caller sees it. -/
def publisherError : Publisher → ErrorChain → ServiceError
  | .entries, cause => .eventLog cause.joined
  | .notifications, cause => .integrationDispatch cause.joined

/-- The publisher that a call goes through. -/
def publisher? (d : Destinations) : Call → Option Publisher
  | .log .. => if d.eventLog matches .broker _ then some .entries else none
  | .send _ => if d.integration matches .broker _ then some .notifications else none
  | _ => none

/-- Whether a call goes nowhere, so that it cannot fail. -/
def isDropped (d : Destinations) : Call → Bool
  | .send _ => d.integration = .disabled
  | _ => false

/-- The failure of a call, and the faults after it. -/
def failure (d : Destinations) (c : Call) (fs : Faults) : Option ServiceError × Faults :=
  if isDropped d c then (none, fs)
  else
    match publisher? d c, c.seam? with
    | some p, _ =>
      let (cause, publishers) := Fault.strike p fs.publishers
      (cause.map (publisherError p), { fs with publishers })
    | none, some seam =>
      let (e, calls) := Fault.strike seam fs.calls
      (e, { fs with calls })
    | none, none => (none, fs)

end Faults

/-- The conditions of a world with these destinations whose clock stands still and in which faults
strike. -/
def Conditions.ofFaults (d : Destinations) (time : Time.Instant) : Conditions Faults where
  clock faults := (time, faults)
  failure := Faults.failure d

end Lorawan
