import Volley.Extension.ScriptUnit

/-!
# Engines and slots

An engine runs the requests to a unit, one after the other. It ends when it is shut down or when a
script breaks it; the first shutdown after a break tells of it. A slot holds the engine that is in
use.
-/

namespace Volley.Extension

/-- The fault of an engine whose host functions have no event loop to run on. -/
def noEventLoop : Fault :=
  .internal ("Extension host needs a tokio runtime: there is no reactor running, " ++
    "must be called from the context of a Tokio 1.x runtime")

inductive Engine.State where
  | running (u : ScriptUnit)
  | broken
  | closed

/-- mirrors extension:118-123 (`ExtensionHost`) -/
structure Engine where
  identity : String
  unitName : String
  state : Engine.State

namespace Engine

def load (spec : Spec) (limit : Span) (fs : FileSystem) (w : World) :
    Except Fault Engine × World :=
  let (r, w) := ScriptUnit.load spec limit fs w
  (r.map fun u => ⟨spec.identity, spec.unitName, .running u⟩, w)

def fault (e : Engine) (front back : String) : Fault :=
  .extension (front ++ " '" ++ e.identity ++ "' " ++ back)

/-- Hands a request to the unit.
mirrors extension:193-207 (`ExtensionHost::request`) -/
def request {α : Type} (e : Engine) (w : World)
    (run : ScriptUnit → World → Outcome α × ScriptUnit × World) :
    Except Fault α × Engine × World :=
  match e.state with
  | .closed => (.error (e.fault "Extension" "is shut down"), e, w)
  | .broken => (.error (e.fault "Engine thread for" "is gone"), e, w)
  | .running u =>
    match run u w with
    | (some r, u, w) => (r, { e with state := .running u }, w)
    | (none, _, w) =>
      (.error (e.fault "Engine thread for" "stopped mid-call"), { e with state := .broken }, w)

def init (e : Engine) (options : Json) (w : World) : Except Fault Unit × Engine × World :=
  e.request w fun u w => u.init options w

def setup (e : Engine) (param : String) (w : World) : Except Fault Unit × Engine × World :=
  e.request w fun u w => u.setup param w

def teardown (e : Engine) (w : World) : Except Fault Unit × Engine × World :=
  e.request w fun u w => u.teardown w

def call (e : Engine) (name payload marker : String) (w : World) :
    Except Fault ScriptUnit.Call × Engine × World :=
  e.request w fun u w => u.call name payload marker w

/-- Ends the engine.
mirrors extension:240-257 (`ExtensionHost::shutdown`) -/
def shutdown (e : Engine) : Except Fault Unit × Engine :=
  let closed := { e with state := .closed }
  match e.state with
  | .broken => (.error (e.fault "Engine thread for" "panicked"), closed)
  | _ => (.ok ⟨⟩, closed)

end Engine

/-- The place of the engine that is in use.
mirrors extension:269-271 (`ExtensionSlot`) -/
structure Slot where
  engine : Option Engine

namespace Slot

def empty : Slot := ⟨none⟩

/-- Puts an engine in; the one that was there before.
mirrors extension:279-281 (`ExtensionSlot::install`) -/
def install (s : Slot) (e : Engine) : Slot × Option Engine := (⟨some e⟩, s.engine)

/-- mirrors extension:284-288 (`ExtensionSlot::current`) -/
def current (s : Slot) : Except Fault Engine :=
  match s.engine with
  | some e => .ok e
  | none => .error (.extension "Extension used before setup")

/-- mirrors extension:291-293 (`ExtensionSlot::take`) -/
def take (s : Slot) : Slot × Option Engine := (⟨none⟩, s.engine)

end Slot

end Volley.Extension
