import Volley.Numeral.Integer
import Volley.Numeral.Shortest

/-!
# Doubles as integers

A double is cut to an integer by leaving its fraction out, or rounded to the nearest one, a half
away from zero. What lies beyond a range becomes the end of it, and the undefined value is zero.
-/

namespace Volley.Numeral

namespace Binary

/-- The magnitude as a fraction. -/
def ratio (b : Binary) : Ratio := .ofBinary b.mantissa b.exponent

/-- The magnitude without what is behind its point. -/
def whole (b : Binary) : Nat := b.ratio.num / b.ratio.den

/-- The integer nearest to the magnitude, of two the larger. -/
def nearest (b : Binary) : Nat := (2 * b.ratio.num + b.ratio.den) / (2 * b.ratio.den)

def isWhole (b : Binary) : Bool := b.ratio.num % b.ratio.den == 0

end Binary

/-- The integer with a sign and a magnitude. -/
def signed (negative : Bool) (n : Nat) : Int := if negative then -n else n

/-- The integer of a range that a double is taken for, by the integer taken for its magnitude. -/
def integerIn (low high : Int) (magnitude : Binary → Nat) (x : Float) : Int :=
  match classify x.toBits with
  | .nan => 0
  | .infinite negative => if negative then low else high
  | .finite negative b => clamp low high (signed negative (magnitude b))

/-- Whether a double is zero, of either sign, or more. -/
def isNonnegative (x : Float) : Bool :=
  match classify x.toBits with
  | .nan => false
  | .infinite negative => !negative
  | .finite negative b => !negative || b.mantissa == 0

end Volley.Numeral
