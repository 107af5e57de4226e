import Volley.Measurement

/-!
# What a shot comes to
-/

namespace Volley

/-- What a shot without a fault comes to.
mirrors types:129-134 (`Fired`) -/
inductive Fired where
  | measured
  /-- Nothing was measured. -/
  | skipped
  deriving DecidableEq, Repr

end Volley
