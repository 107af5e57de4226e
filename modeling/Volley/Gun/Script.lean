import Volley.Ammo.Missile
import Volley.Extension.Engine
import Volley.Gun.Fired
import Volley.Gun.Kind
import Volley.Gun.Timeout

/-!
# Script guns

The three guns that run a user's module. The custom gun calls one function for every missile; the
scenario gun picks a function of a table and the ultimate gun a method of an object, by the name in
the marker. Each shot opens a scope. The script's result assigns figures of its record, but a script
that measured on its own leaves no enclosing record.
-/

namespace Volley

/-- How a gun uses its module. -/
inductive ScriptGun.Role where
  | custom
  | scenario
  | ultimate (className initParam : String)
  deriving DecidableEq, Repr

structure ScriptGun where
  role : ScriptGun.Role
  file : String
  moduleName : String
  options : Options
  slot : Extension.Slot
  /-- The shots that matched no scenario. -/
  skipped : Nat

namespace ScriptGun

open Extension (Engine ScriptUnit Spec Shape)

namespace Role

def kind : Role → GunKind
  | custom => .custom
  | scenario => .scenario
  | ultimate .. => .ultimate

def shape : Role → Shape
  | custom => .function
  | scenario => .scenarios
  | ultimate className _ => .class className

end Role

def defaultTimeout : Nat := 11

/-- The role that the options describe. -/
def readRole (o : Options) : GunKind → Except Fault Role
  | .custom => return .custom
  | .scenario => return .scenario
  | _ => return .ultimate (← o.require "class_name") (o.getD "init_param" "")

/-- mirrors gun/ultimate:34-50 (`UltimateGun::new`) -/
def build (kind : GunKind) (o : Options) : Except Fault ScriptGun := do
  let path ← o.require "module_path"
  let name ← o.require "module_name"
  let role ← readRole o kind
  return ⟨role, Extension.moduleFile path name, name, o, .empty, 0⟩

/-- The name of the engine that holds the module now. -/
def identity? (g : ScriptGun) : Option String := g.slot.engine.map (·.identity)

/-- The name of an engine that is loaded now. -/
def freshIdentity (g : ScriptGun) (now : Clock.Reading) : String :=
  match g.role with
  | .ultimate .. => g.moduleName ++ "_" ++ .ofList (Numeral.signedDecimal now.wall.secs)
  | _ => g.moduleName

/-! ## Setup and teardown -/

/-- Runs the hooks of an engine after its load. -/
def runHooks (g : ScriptGun) (e : Engine) (w : World) : Except Fault Engine × World :=
  match e.init g.options.toJson w with
  | (.error f, _, w) => (.error f, w)
  | (.ok _, e, w) =>
    match g.role with
    | .ultimate _ param =>
      match e.setup param w with
      | (.error f, _, w) => (.error f, w)
      | (.ok _, e, w) => (.ok e, w)
    | _ => (.ok e, w)

/-- Loads the module and runs its hooks. -/
def prepare (g : ScriptGun) (limit : Span) (fs : FileSystem) (w : World) :
    Except Fault Engine × World :=
  let (now, w) := w.look
  match Engine.load ⟨g.file, g.moduleName, g.freshIdentity now, g.role.shape⟩ limit fs w with
  | (.error f, w) => (.error f, w)
  | (.ok e, w) => g.runHooks e w

/-- Puts an engine in use and shuts down the one that was. -/
def install (g : ScriptGun) (e : Engine) : Except Fault Unit × ScriptGun :=
  let (slot, previous) := g.slot.install e
  let ended := match previous with
    | some p => p.shutdown.1
    | none => .ok ⟨⟩
  (ended, { g with slot })

/-- Puts a fresh engine in use; a failure leaves the one that was.
mirrors gun/ultimate:64-89 (`UltimateGun::setup`) -/
def setup (g : ScriptGun) (fs : FileSystem) (w : World) : Except Abort Unit × ScriptGun × World :=
  match Gun.timeLimit g.options "Script fetch timeout" defaultTimeout with
  | .error a => (.error a, g, w)
  | .ok limit =>
    match g.prepare limit fs w with
    | (.error f, w) => (.error (.fault f), g, w)
    | (.ok e, w) =>
      let (ended, g) := g.install e
      (Abort.lift ended, g, w)

/-- Empties the slot and ends its engine, after the hook of its object.
mirrors gun/ultimate:96-103 (`UltimateGun::teardown`) -/
def teardown (g : ScriptGun) (w : World) : Except Fault Unit × ScriptGun × World :=
  let (slot, taken) := g.slot.take
  let g := { g with slot }
  match taken with
  | none => (.ok ⟨⟩, g, w)
  | some e =>
    match g.role with
    | .ultimate .. =>
      let (hook, e, w) := e.teardown w
      (e.shutdown.1.bind fun _ => hook, g, w)
    | _ => (e.shutdown.1, g, w)

/-! ## Shots -/

/-- The record of a finished call, and what the shot comes to. -/
def judge (r : ShotRecord) (call : ScriptUnit.Call) : ShotRecord × Except Fault Fired :=
  let r := { r with intervalReal := some (UInt64.ofNat call.elapsed.toMicros) }
  match call.invocation with
  | .ok (.completed (some v)) => ((r.override v).1, .ok .measured)
  | .ok _ => (r, .ok .measured)
  | .error f => (r.markFailed, .error f)

/-- Ends the scope of a finished call.
mirrors gun/script:27-42 (`settle`) -/
def settle (shot : Shot) (call : ScriptUnit.Call) (w : World) : Except Fault Fired × World :=
  if 0 < call.steps then
    (call.invocation.map fun _ => .measured, w.closeShot shot .discarded)
  else
    let (record, result) := judge shot.record call
    (result, w.closeShot { shot with record } .completed)

/-- Ends the scope of a call that picked a function by name.
mirrors gun/script:48-70 (`fire_scenario`) -/
def settleScenario (g : ScriptGun) (shot : Shot) (call : ScriptUnit.Call) (w : World) :
    Except Fault Fired × ScriptGun × World :=
  match call.invocation with
  | .ok .notFound =>
    (.ok .skipped, { g with skipped := g.skipped + 1 }, w.closeShot shot .discarded)
  | _ =>
    let (result, w) := settle shot call w
    (result, g, w)

/-- The name that is called for a marker, and the marker that the script gets. -/
def target (g : ScriptGun) (marker : String) : String × String :=
  match g.role with
  | .custom => ("shoot", marker)
  | _ => (Missile.scenarioName marker, Missile.scenarioName marker)

/-- Fires a missile.
mirrors gun/custom:66-75 (`CustomGun::shoot`) -/
def shoot (g : ScriptGun) (m : Missile) (w : World) : Except Fault Fired × ScriptGun × World :=
  match g.slot.current with
  | .error f => (.error f, g, w)
  | .ok e =>
    let (shot, w) := w.openShot m.marker
    let (name, marker) := g.target m.marker
    let (answer, e, w) := e.call name m.payload marker w
    let g := { g with slot := ⟨some e⟩ }
    match answer with
    | .error f => (.error f, g, w.closeShot shot.fail .completed)
    | .ok call =>
      match g.role with
      | .custom =>
        let (result, w) := settle shot call w
        (result, g, w)
      | _ => g.settleScenario shot call w

end ScriptGun

end Volley
