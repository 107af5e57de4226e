import Volley.Ammo.Missile
import Volley.Gun.Fired
import Volley.Gun.Timeout
import Volley.World

/-!
# The SQL gun

Each shot is one statement on a connection of a pool, which the first setup connects. What the
database or the pool refuses shows in the codes of the record.
-/

namespace Volley

/-- mirrors gun/sql:63-69 (`SqlGun`) -/
structure SqlGun where
  address : String
  poolSize : Nat
  timeout : Span
  pool : Option Sql.Pool
  deriving DecidableEq, Repr

namespace SqlGun

def defaultPoolSize : Nat := 10

def defaultTimeout : Nat := 30

/-- mirrors gun/sql:73-96 (`SqlGun::new`) -/
def build (o : Options) : Except Abort SqlGun := do
  let address ← Abort.lift (o.require "db")
  let poolSize ← Abort.lift (o.readD "pool_size" (Reading.nat Numeral.maxU32) defaultPoolSize)
  if poolSize = 0 then throw (.fault (.gunConfig "pool_size must be greater than 0"))
  return ⟨address, poolSize, ← Gun.timeLimit o "SQL timeout" defaultTimeout, none⟩

/-- Connects, unless a setup did before.
mirrors gun/sql:110-126 (`SqlGun::setup`) -/
def setup (g : SqlGun) (w : World) : Except Fault Unit × SqlGun × World :=
  match g.pool with
  | some _ => (.ok ⟨⟩, g, w)
  | none =>
    match w.connect g.address g.poolSize g.timeout with
    | (.ok pool, w) => (.ok ⟨⟩, { g with pool := some pool }, w)
    | (.error e, w) => (.error (.gunConfig ("Failed to connect to database: " ++ e.message)), g, w)

/-- The record of a refused statement.
mirrors gun/sql:41-59 (`record_sql_error`) -/
def recordRefusal (r : ShotRecord) : Sql.Effect → ShotRecord
  | .timedOut => { r with netCode := Code.netTimedOut }
  | .resourceClosed => r
  | .warning => { r with protoCode := Code.protoWarning }
  | .failed => { r with protoCode := Code.protoError }

/-- The record of a statement. -/
def recordRows (r : ShotRecord) : Except Sql.DriverFault Nat → ShotRecord
  | .ok rows => { r with sizeIn := UInt64.ofNat rows }
  | .error e => recordRefusal r e.effect

/-- Fires a missile.
mirrors gun/sql:128-145 (`SqlGun::shoot`) -/
def shoot (g : SqlGun) (m : Missile) (w : World) : Except Fault Fired × World :=
  match g.pool with
  | none => (.error (.gunConfig "SQL gun used before setup"), w)
  | some pool =>
    let (shot, w) := w.openShot m.marker
    let sized := { shot.record with sizeOut := UInt64.ofNat m.payload.utf8ByteSize }
    let (rows, w) := w.fetchAll pool m.payload
    (.ok .measured, w.closeShot { shot with record := recordRows sized rows } .completed)

/-- Closes the pool, which stays in its place.
mirrors gun/sql:147-153 (`SqlGun::teardown`) -/
def teardown (g : SqlGun) (w : World) : World :=
  match g.pool with
  | none => w
  | some pool => w.closePool pool

end SqlGun

end Volley
