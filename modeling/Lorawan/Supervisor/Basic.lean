import Lorawan.ServiceError

/-!
# The supervisor

The supervisor joins processes in the order in which they end.  The processes share a token; once it is
cancelled, all of them are to come to an end.  The first failure cancels it.  An error that is joined
before the token was cancelled is the supervisor's own; an error after that is what the others make of
being told to stop, and counts for nothing.
-/

namespace Lorawan

/-- How a process ends. -/
inductive End where
  | ok
  | error (cause : ErrorChain)
  | panic
  deriving DecidableEq, Repr

/-- Whether the process failed. -/
def End.isFailure : End → Bool
  | ok => false
  | error _ | panic => true

/-- What the supervisor knows: whether the token is cancelled, and the error it will report. -/
structure Supervisor where
  cancelled : Bool
  firstError : Option ErrorChain
  deriving DecidableEq, Repr

namespace Supervisor

/-- The supervisor before the first process has ended. -/
def start : Supervisor := ⟨false, none⟩

/-- The token is cancelled by someone. -/
def cancel (s : Supervisor) : Supervisor := { s with cancelled := true }

/-- A process has ended and is joined. -/
def join (s : Supervisor) : End → Supervisor
  | .ok => s
  | .error cause => if s.cancelled then s else ⟨true, some cause⟩
  | .panic => s.cancel

/-- What the supervisor reports when all processes have been joined. -/
def result (s : Supervisor) : Except ErrorChain Unit :=
  match s.firstError with
  | some cause => .error cause
  | none => .ok ()

/-- The time that closers are given, in milliseconds, where nothing else is said. -/
def defaultCloserTimeoutMs : Nat := 10000

end Supervisor

end Lorawan
