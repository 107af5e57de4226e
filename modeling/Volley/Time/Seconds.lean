import Volley.Numeral.Shortest
import Volley.Time.Basic

/-!
# Seconds as real numbers

A span of time may be given as a real number of seconds. It is rounded to whole nanoseconds, a tie
to the even one; spans of 2^64 seconds and more cannot be represented.
-/

namespace Volley.Span

open Numeral

/-- A double above zero that is not infinite, as its exact magnitude. -/
def positive? (x : Float) : Option Binary :=
  match classify x.toBits with
  | .finite false b => if b.mantissa = 0 then none else some b
  | _ => none

/-- A magnitude in seconds rounded to nanoseconds. -/
def secondsToNanos (b : Binary) : Nat := ((Ratio.ofBinary b.mantissa b.exponent).scale 9).roundEven

/-- A span of so many seconds. -/
def ofSeconds? (b : Binary) : Option Span :=
  let s := ofNanos (secondsToNanos b)
  if s.secs ≤ maxU64 then some s else none

end Volley.Span
