/-!
# Computations that may be cut short

Some failures are answers, and the caller goes on with them.  Others abort the computation as a whole,
and no caller sees more of them than that.
-/

namespace Lorawan

/-- Why a computation has no value. -/
inductive Halt (ε : Type) where
  /-- It failed, and its caller learns why. -/
  | error (e : ε)
  /-- It was cut short. -/
  | abort
  deriving DecidableEq, Repr

/-- A computation that gives a value, fails, or is cut short. -/
abbrev Attempt (ε α : Type) := Except (Halt ε) α

namespace Attempt

/-- Fails with an error. -/
def fail (e : ε) : Attempt ε α := .error (.error e)

/-- Is cut short. -/
def abort : Attempt ε α := .error .abort

/-- A value that may be missing, with the error for that case. -/
def ofOption (e : ε) : Option α → Attempt ε α
  | some a => .ok a
  | none => fail e

/-- A computation that is never cut short. -/
def ofExcept : Except ε α → Attempt ε α
  | .ok a => .ok a
  | .error e => fail e

/-- The same computation with its errors seen as others. -/
def mapError (f : ε → δ) : Attempt ε α → Attempt δ α
  | .ok a => .ok a
  | .error (.error e) => fail (f e)
  | .error .abort => abort

end Attempt

end Lorawan
