import Volley.Time.Basic

/-!
# Clocks

A clock is a sequence of readings, each the time of day and a count of nanoseconds that never runs
backwards in use; looking at the clock takes the next reading. Nothing else is assumed of time.
-/

namespace Volley

structure Clock.Reading where
  wall : Timestamp
  nanos : Nat
  deriving DecidableEq, Repr, Inhabited

/-- A sequence of readings, and how many of them were taken. -/
structure Clock where
  readings : Nat → Clock.Reading
  taken : Nat

namespace Clock

/-- The next reading. -/
def look (c : Clock) : Reading × Clock := (c.readings c.taken, { c with taken := c.taken + 1 })

/-- A clock that stands still. -/
def still (wall : Timestamp) : Clock := ⟨fun _ => ⟨wall, 0⟩, 0⟩

/-- The time between two readings. -/
def Reading.since (now start : Reading) : Span := Span.ofNanos (now.nanos - start.nanos)

end Clock

end Volley
