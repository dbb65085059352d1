import Lorawan.Event
import Lorawan.Halt
import Lorawan.ServiceError
import Lorawan.Store.Basic

/-!
# Service programs

A service asks the world around it (storage, the clock, the event log, the integration) and goes on with
the answers.  A service program is that as data: it is done, it is cut short, or it makes a call and has a
program for every answer.  So one program can be run against any world, one call at a time, and next to
other programs.
-/

namespace Lorawan

/-- What a service can ask for. -/
inductive Call where
  | now
  | getDevice (devEui : Eui64)
  | updateDevice (devEui : Eui64) (mutation : DeviceMutation)
  | getApplication (id : Int64)
  | createActivation (devEui : Eui64) (devAddr : DevAddr) (appSKey : Aes128Key)
  | lastActivation (devEui : Eui64)
  | getGateways (ids : List Eui64)
  /-- Adds an entry to the event log of a device. -/
  | log (devEui : Eui64) (entry : EventLogEntry)
  /-- Hands a notification to the integration. -/
  | send (n : Notification)

/-- The type of the answers to a call. -/
@[reducible] def Call.Answer : Call → Type
  | now => Time.Instant
  | getDevice _ | updateDevice .. => Except ServiceError (Option Device)
  | getApplication _ => Except ServiceError (Option Application)
  | createActivation .. => Except ServiceError Activation
  | lastActivation _ => Except ServiceError (Option Activation)
  | getGateways _ => Except ServiceError (Table Eui64 Gateway)
  | log .. | send _ => Except ServiceError Unit

/-- A program that makes calls and has a result. -/
inductive Program (α : Type) where
  | done (a : α)
  | abort
  | call (c : Call) (next : c.Answer → Program α)

namespace Program

/-- The program that goes on with the result of the first. -/
def bind : Program α → (α → Program β) → Program β
  | done a, f => f a
  | abort, _ => abort
  | call c next, f => call c fun answer => (next answer).bind f

instance : Monad Program where
  pure := done
  bind := bind

@[simp] theorem pure_eq (a : α) : (pure a : Program α) = done a := rfl

@[simp] theorem done_bind (a : α) (f : α → Program β) : done a >>= f = f a := rfl

@[simp] theorem abort_bind (f : α → Program β) : abort >>= f = abort := rfl

@[simp] theorem call_bind (c : Call) (next : c.Answer → Program α) (f : α → Program β) :
    call c next >>= f = call c fun answer => next answer >>= f := rfl

theorem bind_done (p : Program α) : p >>= done = p := by
  induction p with
  | done a => rfl
  | abort => rfl
  | call c next ih => simp [ih]

theorem bind_bind (p : Program α) (f : α → Program β) (g : β → Program γ) :
    p >>= f >>= g = p >>= fun a => f a >>= g := by
  induction p with
  | done a => rfl
  | abort => rfl
  | call c next ih => simp [ih]

instance : LawfulMonad Program :=
  LawfulMonad.mk' Program bind_done (fun _ _ => rfl) bind_bind

/-- The program that makes one call. -/
def perform (c : Call) : Program c.Answer := call c done

/-- The result of a program in a world whose state changes with every call, unless it is cut short, and
the state after it. -/
def run (answer : (c : Call) → σ → c.Answer × σ) : Program α → σ → Option α × σ
  | done a, s => (some a, s)
  | abort, s => (none, s)
  | call c next, s =>
    let (a, s) := answer c s
    (next a).run answer s

/-- The program after its next call, and the state after that, if it makes one. -/
def step? (answer : (c : Call) → σ → c.Answer × σ) : Program α → σ → Option (Program α × σ)
  | call c next, s =>
    let (a, s) := answer c s
    some (next a, s)
  | _, _ => none

theorem run_bind (answer : (c : Call) → σ → c.Answer × σ) (p : Program α) (f : α → Program β)
    (s : σ) :
    (p >>= f).run answer s =
      match p.run answer s with
      | (some a, s) => (f a).run answer s
      | (none, s) => (none, s) := by
  induction p generalizing s with
  | done a => rfl
  | abort => rfl
  | call c next ih => simp [run, ih]

end Program

/-- A program that may fail. -/
abbrev Service (α : Type) := ExceptT ServiceError Program α

namespace Service

/-- The program of an operation, with its success or failure as the result. -/
def program (s : Service α) : Program (Except ServiceError α) := s.run

/-- The time. -/
def now : Service Time.Instant := ExceptT.lift (.perform .now)

/-- A device, which must be there. -/
def getDevice (devEui : Eui64) : Service Device := do
  match ← ExceptT.mk (.perform (.getDevice devEui)) with
  | some d => return d
  | none => throw (.deviceNotFound devEui.text)

/-- A device after a change; it must be there. -/
def updateDevice (devEui : Eui64) (mutation : DeviceMutation) : Service Device := do
  match ← ExceptT.mk (.perform (.updateDevice devEui mutation)) with
  | some d => return d
  | none => throw (.deviceNotFound devEui.text)

/-- An application, which must be there. -/
def getApplication (id : Int64) : Service Application := do
  match ← ExceptT.mk (.perform (.getApplication id)) with
  | some a => return a
  | none => throw (.applicationNotFound id)

/-- Adds an activation. -/
def createActivation (devEui : Eui64) (devAddr : DevAddr) (appSKey : Aes128Key) : Service Activation :=
  ExceptT.mk (.perform (.createActivation devEui devAddr appSKey))

/-- The session of a device, which must have one. -/
def lastActivation (devEui : Eui64) : Service Activation := do
  match ← ExceptT.mk (.perform (.lastActivation devEui)) with
  | some a => return a
  | none => throw (.deviceActivationNotFound devEui.text)

/-- The known ones among some gateways; none if storage fails. -/
def getGateways (ids : List Eui64) : Service (Table Eui64 Gateway) := ExceptT.lift do
  match ← Program.perform (.getGateways ids) with
  | .ok gateways => return gateways
  | .error _ => return .empty

/-- Adds a notification to the event log of its device.  A failure of the log is passed over. -/
def record (n : Notification) : Service Unit :=
  ExceptT.lift (discard (Program.perform (.log n.origin.devEui (.ofNotification n))))

/-- A failure of the integration, as whoever waits for the dispatch sees it. -/
def dispatchError : ServiceError → ServiceError
  | .integrationDispatch detail => .integrationDispatch detail
  | e => .integrationDispatch e.message

/-- Hands a notification to the integration, which must take it. -/
def deliver (n : Notification) : Service Unit := ExceptT.mk do
  match ← Program.perform (.send n) with
  | .ok () => return .ok ()
  | .error e => return .error (dispatchError e)

/-- Hands a notification to the integration, whether it takes it or not. -/
def offer (n : Notification) : Service Unit := ExceptT.lift (discard (Program.perform (.send n)))

/-- The value of a computation that may fail or be cut short. -/
def ofAttempt : Attempt ServiceError α → Service α
  | .ok a => pure a
  | .error (.error e) => throw e
  | .error .abort => ExceptT.mk .abort

end Service

/-- Where notifications about a device come from. -/
def Origin.of (a : Application) (d : Device) : Origin := ⟨a.id, a.name, d.name, d.devEui⟩

end Lorawan
