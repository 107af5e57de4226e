import Volley.Extension.TreeEngine

/-!
# Script units

A script unit is a module that was run and has what its shape asks for: a function `shoot`, an
object `SCENARIOS`, or a class, which is constructed once. Loading, the hooks and calls answer with
a fault where the script throws; where it breaks the engine there is no answer.
-/

namespace Volley.Extension

open Script

/-- mirrors extension/engine:53-60 (`Engine`) -/
structure ScriptUnit where
  spec : Spec
  memory : Memory
  entry : Ref
  /-- The object of a class, once it was constructed. -/
  instance_ : Option Ref

/-- What comes of a computation: nothing, if it breaks the engine. -/
abbrev Outcome (α : Type) := Option (Except Fault α)

/-- The methods of a class that no call runs. -/
def reservedMethods : List String := ["constructor", "setup", "teardown"]

/-- Runs a computation, with a fault for what interrupts it. -/
def guarded {α : Type} (fault : String → Fault) (x : Run α) : Run (Except Fault α) :=
  tryCatch (do return .ok (← x)) fun i => do return .error (fault (← describe call i))

namespace ScriptUnit

/-- Runs a computation in a memory; the memory and the world after it. -/
def runIn {α : Type} (memory : Memory) (w : World) (x : Run (Except Fault α)) :
    Outcome α × Memory × World :=
  let (r, m) := settled x { memory with world := w }
  (r, m.toMemory, m.world)

/-- Loads a unit whose requests may take so long. -/
def load (spec : Spec) (limit : Span) (fs : FileSystem) (w : World) :
    Except Fault ScriptUnit × World :=
  let (entry, m) := treeEngine.load spec fs { Memory.start limit with world := w }
  (entry.map fun r => ⟨spec, m.toMemory, r, none⟩, m.world)

/-- What the engine is asked for in the midst of a computation: if it breaks, so does the
computation. -/
def answered {α : Type} : Outcome α × Machine → Except Interrupt (Except Fault α) × Machine
  | (some answer, m) => (.ok answer, m)
  | (none, m) => (.error .crash, m)

/-- Looks up a name. -/
def lookup (name : String) : Run (Except Fault (Option Ref)) := fun m =>
  answered (treeEngine.lookup name m)

/-- Constructs the class, or calls the function `init` if there is one; the object of the class.
mirrors extension/engine:94-128 (`Engine::init`) -/
def initRun (u : ScriptUnit) (options : Json) : Run (Except Fault (Option Ref)) := do
  let argument ← ofJson options
  match u.spec.shape with
  | .class name =>
    let failed (text : String) : Fault :=
      .extensionLoad ("Failed to construct '" ++ name ++ "': " ++ text)
    match ← guarded failed (construct maxDepth u.entry u.entry [argument]) with
    | .error e => return .error e
    | .ok (.object r) => return .ok (some r)
    | .ok _ => return .ok u.instance_
  | _ =>
    match ← lookup "init" with
    | .error e => return .error e
    | .ok none => return .ok u.instance_
    | .ok (some f) =>
      if !(← objectAt f).isCallable then return .ok u.instance_
      let failed (text : String) : Fault := .extension ("init failed: " ++ text)
      match ← guarded failed (call f .undefined [argument]) with
      | .error e => return .error e
      | .ok _ => return .ok u.instance_

/-- Runs the initializer with the options. -/
def init (u : ScriptUnit) (options : Json) (w : World) : Outcome Unit × ScriptUnit × World :=
  match runIn u.memory w (u.initRun options) with
  | (some (.ok r), memory, w) => (some (.ok ⟨⟩), { u with memory, instance_ := r }, w)
  | (some (.error e), memory, w) => (some (.error e), { u with memory }, w)
  | (none, memory, w) => (none, { u with memory }, w)

/-- The function that a property of an object holds.
mirrors extension/engine:214-219 (`method`) -/
def methodOf (r : Ref) (name : String) : Run (Except Fault (Option Ref)) := do
  let failed (text : String) : Fault := .extension ("Failed to read '" ++ name ++ "': " ++ text)
  match ← guardedShown failed (getProperty call (.object r) name) with
  | .error e => return .error e
  | .ok (.object f) => return .ok (if (← objectAt f).isCallable then some f else none)
  | .ok _ => return .ok none

/-- Calls a hook of the class's object, if there is an object and it has the hook.
mirrors extension/engine:138-149 (`Engine::call_instance_hook`) -/
def hookRun (u : ScriptUnit) (name : String) (args : List Value) : Run (Except Fault Unit) := do
  match u.instance_ with
  | none => return .ok ⟨⟩
  | some r =>
    match ← methodOf r name with
    | .error e => return .error e
    | .ok none => return .ok ⟨⟩
    | .ok (some f) =>
      let failed (text : String) : Fault := .extension (name ++ " failed: " ++ text)
      return (← guarded failed (call f (.object r) args)).map fun _ => ⟨⟩

def hook (u : ScriptUnit) (name : String) (args : List Value) (w : World) :
    Outcome Unit × ScriptUnit × World :=
  let (r, memory, w) := runIn u.memory w (u.hookRun name args)
  (r, { u with memory }, w)

def setup (u : ScriptUnit) (param : String) (w : World) : Outcome Unit × ScriptUnit × World :=
  u.hook "setup" [.string param] w

def teardown (u : ScriptUnit) (w : World) : Outcome Unit × ScriptUnit × World :=
  u.hook "teardown" [] w

/-! ## Calls -/

/-- What a call comes to.
mirrors extension:63-68 (`Invocation`) -/
inductive Invocation where
  /-- The function ran; what it returned, if that can be told in JSON. -/
  | completed (value : Option Json)
  | notFound

/-- A call as seen from outside.
mirrors extension:72-79 (`Call`) -/
structure Call where
  invocation : Except Fault Invocation
  elapsed : Span
  /-- How many measured scopes the script opened. -/
  steps : Nat

/-- The first object of a chain that has a name of its own, up to the root of all objects. -/
def ownerFrom (m : Machine) (name : String) : Nat → Ref → Option Ref
  | 0, _ => none
  | limit + 1, r =>
    if r = Intrinsic.objectPrototype then none
    else if ((m.object r).own? name).isSome then some r
    else match (m.object r).parent with
      | some p => ownerFrom m name limit p
      | none => none

/-- The function that the script itself gave a name on an object or on its parents.
mirrors extension/engine:225-243 (`scenario_method`) -/
def scenario (r : Ref) (name : String) : Run (Except Fault (Option Ref)) := do
  let m ← get
  match ownerFrom m name m.heap.size r with
  | some owner => methodOf owner name
  | none => return .ok none

/-- The value that a call runs on, and the function. -/
def target (u : ScriptUnit) (name : String) : Run (Except Fault (Value × Option Ref)) := do
  match u.spec.shape with
  | .function => return .ok (.undefined, some u.entry)
  | .scenarios => return (← scenario u.entry name).map fun f => (.undefined, f)
  | .class className =>
    match u.instance_ with
    | none => return .error (.extension ("'" ++ className ++ "' has not been constructed"))
    | some r =>
      if reservedMethods.contains name then return .ok (.object r, none)
      else return (← scenario r name).map fun f => (.object r, f)

/-- A returned value in JSON; undefined, null and what JSON cannot tell are nothing.
mirrors extension/engine:253-264 (`to_json`) -/
def returnedJson (v : Value) : Run (Option Json) := do
  match v with
  | .undefined => return none
  | .null => return none
  | v =>
    match (← get).json v with
    | .ok j => return some j
    | .error (.refused _) => return none
    | .error .broken => throw .crash

/-- Calls what a name stands for with a payload and a marker.
mirrors extension/engine:163-198 (`Engine::invoke`) -/
def invokeRun (u : ScriptUnit) (name payload marker : String) : Run (Except Fault Invocation) := do
  match ← u.target name with
  | .error e => return .error e
  | .ok (_, none) => return .ok .notFound
  | .ok (self, some f) =>
    let failed (text : String) : Fault := .extension (name ++ ": " ++ text)
    match ← guarded failed (Extension.call f self [.string payload, .string marker]) with
    | .error e => return .error e
    | .ok v => return .ok (.completed (← returnedJson v))

/-- The number of scopes opened since the last count. -/
def takeSteps : Run Nat := modifyGet fun m => (m.steps, { m with steps := 0 })

def readClock : Run Clock.Reading := modifyGet fun m =>
  let (now, world) := m.world.look
  (now, { m with world })

/-- mirrors extension/engine:152-161 (`Engine::call`) -/
def callRun (u : ScriptUnit) (name payload marker : String) : Run (Except Fault Call) := do
  let started ← readClock
  let _ ← takeSteps
  let invocation ← u.invokeRun name payload marker
  let now ← readClock
  return .ok ⟨invocation, now.since started, ← takeSteps⟩

def call (u : ScriptUnit) (name payload marker : String) (w : World) :
    Outcome Call × ScriptUnit × World :=
  let (r, memory, w) := runIn u.memory w (u.callRun name payload marker)
  (r, { u with memory }, w)

end ScriptUnit

end Volley.Extension
