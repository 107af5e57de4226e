import Volley.Ammo.Missile
import Volley.Gun.Fired
import Volley.Options
import Volley.World

/-!
# The log gun

Touches no target: each shot takes a time that chance decides, from 2 milliseconds to 30 seconds.
-/

namespace Volley

/-- mirrors gun/log_gun:18-21 (`LogGun`) -/
structure LogGun where
  param : String
  deriving DecidableEq, Repr

namespace LogGun

def minMillis : Nat := 2

def maxMillis : Nat := 30000

/-- mirrors gun/log_gun:25-29 (`LogGun::new`) -/
def build (o : Options) : Except Fault LogGun := return ⟨← o.require "param"⟩

/-- Fires a missile.
mirrors gun/log_gun:43-49 (`LogGun::shoot`) -/
def shoot (_ : LogGun) (m : Missile) (w : World) : Except Fault Fired × World :=
  let (shot, w) := w.openShot m.marker
  let (millis, w) := w.draw minMillis maxMillis
  let record := { shot.record with intervalReal := some (UInt64.ofNat (millis * 1000)) }
  (.ok .measured, w.closeShot { shot with record } .completed)

end LogGun

end Volley
