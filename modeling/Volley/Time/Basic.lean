import Volley.Numeral.Integer

/-!
# Points in time and spans of time

A timestamp is a count of whole seconds since 1970, rounded down, and the nanoseconds within that
second. Within a leap second the nanoseconds run on from 10^9. Timestamps are those of the
years -262143 to 262142.
-/

namespace Volley

/-- A point in time. -/
structure Timestamp where
  secs : Int
  nanos : Nat
  deriving DecidableEq, Repr, Inhabited

/-- A span of time. -/
structure Span where
  secs : Nat
  nanos : Nat
  deriving DecidableEq, Repr, Inhabited

namespace Timestamp

def minSecs : Int := -8334601228800

def maxSecs : Int := 8210266876799

/-- The timestamp at a second and a nanosecond within it, if that second can be represented. -/
def at? (secs : Int) (nanos : Nat) : Option Timestamp :=
  if minSecs ≤ secs ∧ secs ≤ maxSecs ∧ nanos < 2000000000 then some ⟨secs, nanos⟩ else none

/-- Whole milliseconds within the second; a thousand and more within a leap second. -/
def millis (t : Timestamp) : Nat := t.nanos / 1000000

/-- The timestamp cut to whole milliseconds. -/
def truncated (t : Timestamp) : Timestamp := ⟨t.secs, t.millis * 1000000⟩

end Timestamp

namespace Span

/-- A span in nanoseconds. -/
def ofNanos (n : Nat) : Span := ⟨n / 1000000000, n % 1000000000⟩

def ofMicros (n : Nat) : Span := ofNanos (n * 1000)

def toNanos (s : Span) : Nat := s.secs * 1000000000 + s.nanos

/-- Whole microseconds, at most the largest 64-bit word. -/
def toMicros (s : Span) : Nat := min (s.toNanos / 1000) Numeral.maxU64

/-- A count of units with its decimal part, which has `places` digits, and the unit's name. -/
def renderIn (whole part places : Nat) (unit : String) : String :=
  let digits := (Numeral.zeroPadded places part).reverse.dropWhile (· == '0')
  let text := if digits.isEmpty then Numeral.decimal whole
    else Numeral.decimal whole ++ '.' :: digits.reverse
  .ofList text ++ unit

/-- The span in the largest unit of which it holds at least one. -/
def render (s : Span) : String :=
  if 0 < s.secs then renderIn s.secs s.nanos 9 "s"
  else if 1000000 ≤ s.nanos then renderIn (s.nanos / 1000000) (s.nanos % 1000000) 6 "ms"
  else if 1000 ≤ s.nanos then renderIn (s.nanos / 1000) (s.nanos % 1000) 3 "µs"
  else renderIn s.nanos 0 0 "ns"

end Span

end Volley
