import Volley.Gun.Http
import Volley.Gun.Log
import Volley.Gun.Script
import Volley.Gun.Sql

/-!
# Guns

A gun is built from options, set up, fired, and torn down.
-/

namespace Volley

/-- mirrors gun:42-66 (`Gun`) -/
inductive Gun where
  | log (g : LogGun)
  | http (g : HttpGun)
  | sql (g : SqlGun)
  | script (g : ScriptGun)

namespace Gun

/-- Builds the gun of a kind.
mirrors gun:181-191 (`build_gun`) -/
def build (kind : GunKind) (o : Options) : Except Abort Gun :=
  match kind with
  | .log => (Abort.lift (LogGun.build o)).map log
  | .http => (HttpGun.build o).map http
  | .sql => (SqlGun.build o).map sql
  | kind => (Abort.lift (ScriptGun.build kind o)).map script

def kind : Gun → GunKind
  | log _ => .log
  | http _ => .http
  | sql _ => .sql
  | script g => g.role.kind

/-- The shots that matched no scenario. -/
def skipped : Gun → Nat
  | script g => g.skipped
  | _ => 0

/-- Prepares the gun's resources. -/
def setup (g : Gun) (fs : FileSystem) (w : World) : Except Abort Unit × Gun × World :=
  match g with
  | log g => (.ok ⟨⟩, log g, w)
  | http g => (.ok ⟨⟩, http g, w)
  | sql g =>
    let (r, g, w) := g.setup w
    (Abort.lift r, sql g, w)
  | script g =>
    let (r, g, w) := g.setup fs w
    (r, script g, w)

/-- Fires a missile. -/
def shoot (g : Gun) (m : Missile) (w : World) : Except Fault Fired × Gun × World :=
  match g with
  | log g =>
    let (r, w) := g.shoot m w
    (r, log g, w)
  | http g =>
    let (r, w) := g.shoot m w
    (r, http g, w)
  | sql g =>
    let (r, w) := g.shoot m w
    (r, sql g, w)
  | script g =>
    let (r, g, w) := g.shoot m w
    (r, script g, w)

/-- Lets the gun's resources go. -/
def teardown (g : Gun) (w : World) : Except Fault Unit × Gun × World :=
  match g with
  | log g => (.ok ⟨⟩, log g, w)
  | http g => (.ok ⟨⟩, http g, w)
  | sql g => (.ok ⟨⟩, sql g, g.teardown w)
  | script g =>
    let (r, g, w) := g.teardown w
    (r, script g, w)

end Gun

end Volley
