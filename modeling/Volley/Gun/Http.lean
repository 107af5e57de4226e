import Volley.Ammo.Missile
import Volley.Gun.Fired
import Volley.Gun.Timeout
import Volley.World

/-!
# The HTTP gun

Each shot is one `GET` of the base address with the payload right behind it. The status becomes the
protocol code, also if the body fails to come. A time limit that ran out and a refused connection
are measured as such; any other failure is a fault.
-/

namespace Volley

/-- mirrors gun/http:18-23 (`HttpGun`) -/
structure HttpGun where
  base : String
  timeout : Span
  deriving DecidableEq, Repr

namespace HttpGun

def defaultTimeout : Nat := 11

/-- mirrors gun/http:27-50 (`HttpGun::new`) -/
def build (o : Options) : Except Abort HttpGun := do
  let base ← Abort.lift (o.require "base_address")
  return ⟨base, ← Gun.timeLimit o "HTTP timeout" defaultTimeout⟩

/-- The record of a failed exchange, and what the shot comes to.
mirrors gun/http:69-83 (`record_transport_error`) -/
def recordFailure (r : ShotRecord) (e : Http.Failure) : ShotRecord × Except Fault Fired :=
  if e.isTimeout then
    ({ r with netCode := Code.netTimedOut, protoCode := Code.protoError }, .ok .measured)
  else if e.isConnect then
    ({ r with netCode := Code.netTransport, protoCode := Code.protoError }, .ok .measured)
  else (r.markFailed, .error (.transport e.message))

/-- The record of an exchange, and what the shot comes to. -/
def recordExchange (r : ShotRecord) : Except Http.Failure Http.Response →
    ShotRecord × Except Fault Fired
  | .error e => recordFailure r e
  | .ok ⟨status, body⟩ =>
    let r := { r with protoCode := Int32.ofNat status }
    match body with
    | .ok bytes => ({ r with sizeIn := UInt64.ofNat bytes.length }, .ok .measured)
    | .error e => recordFailure r e

/-- Fires a missile.
mirrors gun/http:91-112 (`HttpGun::shoot`) -/
def shoot (g : HttpGun) (m : Missile) (w : World) : Except Fault Fired × World :=
  let (shot, w) := w.openShot m.marker
  let sized := { shot.record with sizeOut := UInt64.ofNat m.payload.utf8ByteSize }
  let (response, w) := w.exchange g.timeout "GET" (g.base ++ m.payload) [] none
  let (record, result) := recordExchange sized response
  (result, w.closeShot { shot with record } .completed)

end HttpGun

end Volley
