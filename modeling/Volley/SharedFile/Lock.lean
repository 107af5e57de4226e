import Volley.Chance
import Volley.Time.Basic

/-!
# Waiting for a lock

Between two attempts at a lock lies a pause that chance decides within limits. Once the budget of
time is spent, the attempt that fails then is the last. A pause takes some time, however short.
-/

namespace Volley

/-- mirrors multireader:42-49 (`LockPolicy`) -/
structure LockPolicy where
  minPause : Span
  maxPause : Span
  budget : Span
  deriving DecidableEq, Repr

namespace LockPolicy

def standard : LockPolicy := ⟨.ofNanos 5000000, .ofNanos 20000000, ⟨10, 0⟩⟩

/-- The next pause, in nanoseconds.
mirrors multireader:62-69 (`LockPolicy::jitter`) -/
def pause (p : LockPolicy) (c : Chance) : Nat × Chance :=
  if p.maxPause.toMicros ≤ p.minPause.toMicros then (p.minPause.toNanos, c)
  else
    let (micros, c) := c.between p.minPause.toMicros p.maxPause.toMicros
    (micros * 1000, c)

/-- The failed attempts from `spent` nanoseconds on, while the lock stays held. -/
def attemptsFrom (p : LockPolicy) (c : Chance) (spent : Nat) : Nat → Nat × Chance
  | 0 => (1, c)
  | more + 1 =>
    if p.budget.toNanos ≤ spent then (1, c)
    else
      let drawn := p.pause c
      let rest := p.attemptsFrom drawn.2 (spent + max drawn.1 1) more
      (rest.1 + 1, rest.2)

/-- The failed attempts until the budget is spent, while the lock stays held.
mirrors multireader:180-209 (`FileMultiReader::wait_lock`) -/
def attempts (p : LockPolicy) (c : Chance) : Nat × Chance := p.attemptsFrom c 0 p.budget.toNanos

/-- Whoever gives up has tried at least once. -/
theorem attemptsFrom_pos (p : LockPolicy) (c : Chance) (spent more : Nat) :
    1 ≤ (p.attemptsFrom c spent more).1 := by
  cases more with
  | zero => exact Nat.le_refl 1
  | succ more =>
    rw [attemptsFrom]
    split
    · exact Nat.le_refl 1
    · exact Nat.le_add_left 1 _

end LockPolicy

end Volley
