import Volley.Options
import Volley.Time.Seconds

/-!
# Time limits of guns

A gun's time limit is a real number of seconds above zero.
-/

namespace Volley

/-- How preparing a gun ends without one. -/
inductive Abort where
  | fault (f : Fault)
  /-- The program itself stops. -/
  | panic (message : String)
  deriving DecidableEq, Repr

namespace Abort

/-- A result that can only be a fault. -/
def lift {α : Type} (r : Except Fault α) : Except Abort α := r.mapError fault

end Abort

namespace Gun

def spanPanic : String :=
  "cannot convert float seconds to Duration: value is either too big or NaN"

/-- A span, which the program cannot go on without. -/
def demandSpan : Option Span → Except Abort Span
  | some s => return s
  | none => throw (.panic spanPanic)

/-- The span of so many seconds above zero; `owner` is named where there is no such number. -/
def limitOf (owner : String) : Option Numeral.Binary → Except Abort Span
  | none => throw (.fault (.gunConfig (owner ++ " must be greater than 0")))
  | some b => demandSpan (Span.ofSeconds? b)

/-- The option `timeout` in seconds, or a default.
mirrors gun/script:13-20 (`script_io`) -/
def timeLimit (o : Options) (owner : String) (fallback : Nat) : Except Abort Span := do
  let seconds ← Abort.lift (o.readD "timeout" Reading.real (Float.ofNat fallback))
  limitOf owner (Span.positive? seconds)

end Gun

end Volley
