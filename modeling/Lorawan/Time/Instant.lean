import Lorawan.Time.Calendar

/-!
# Instants

A point in time to the nanosecond.  A leap second is held by letting the nanoseconds of the second
before it run on, so that instants keep their order.
-/

namespace Lorawan.Time

/-- The number of nanoseconds in a second. -/
def nanosPerSecond : Nat := 1000000000

/-- Seconds since 1970 in universal time, and nanoseconds. -/
structure Instant where
  seconds : Int
  nanos : Nat
  deriving DecidableEq, Repr, Inhabited

namespace Instant

/-- Whether the first instant is no later than the second. -/
def le (a b : Instant) : Bool :=
  a.seconds < b.seconds || (a.seconds == b.seconds && a.nanos ≤ b.nanos)

instance : LE Instant := ⟨fun a b => a.le b = true⟩

instance (a b : Instant) : Decidable (a ≤ b) := inferInstanceAs (Decidable (a.le b = true))

/-- The later of two instants. -/
def max (a b : Instant) : Instant := if a ≤ b then b else a

/-- The whole nanoseconds since 1970. -/
def toNanos (t : Instant) : Int := t.seconds * nanosPerSecond + t.nanos

/-- The instant so many nanoseconds after the start of 1970. -/
def ofNanos (n : Int) : Instant := ⟨n.fdiv nanosPerSecond, (n.fmod nanosPerSecond).toNat⟩

/-- The instant so many nanoseconds later. -/
def add (t : Instant) (n : Int) : Instant := ofNanos (t.toNanos + n)

end Instant

/-- An instant seen from a place whose clocks are some seconds ahead of universal time. -/
structure Zoned where
  instant : Instant
  offset : Int
  deriving DecidableEq, Repr

/-- What a clock shows: the date, the second of the day, and the nanoseconds. -/
structure Clock where
  date : Date
  second : Nat
  nanos : Nat
  deriving Repr

namespace Zoned

/-- What the clocks show there. -/
def clock (z : Zoned) : Clock :=
  let local' := z.instant.seconds + z.offset
  ⟨Date.ofDays (local'.fdiv 86400), (local'.fmod 86400).toNat, z.instant.nanos⟩

/-- The instant at which the clocks show this. -/
def ofClock (c : Clock) (offset : Int) : Zoned :=
  ⟨⟨c.date.toDays * 86400 + c.second - offset, c.nanos⟩, offset⟩

end Zoned

end Lorawan.Time
