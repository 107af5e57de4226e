/-!
# Chance

A source of chance is a sequence of draws; asking it takes the next one. Nothing else is assumed of
the draws.
-/

namespace Volley

/-- A sequence of draws, and how many of them were taken. -/
structure Chance where
  draws : Nat → Nat
  taken : Nat

namespace Chance

/-- The next draw, brought into the range from `low` to `high`. -/
def between (c : Chance) (low high : Nat) : Nat × Chance :=
  (low + c.draws c.taken % (high - low + 1), { c with taken := c.taken + 1 })

/-- The source whose every draw is the same. -/
def constant (n : Nat) : Chance := ⟨fun _ => n, 0⟩

/-- The draws that follow from a seed: multiples of an odd number, the high bits of words of 64
bits. -/
def ofSeed (seed : Nat) : Chance :=
  ⟨fun n => (seed + n + 1) * 0x9E3779B97F4A7C15 % 0x10000000000000000 / 0x1000000, 0⟩

end Chance

end Volley
