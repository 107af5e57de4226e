import Volley.Extension.Name
import Volley.Fault
import Volley.FileSystem

/-!
# Loading units

A unit is loaded in stages: the name that its shape asks for is an identifier, its file is there and
is text, an engine starts and runs the text, and what the name stands for then is of the right kind.
Each stage refuses in its own words.

The engine is a parameter, and nothing is assumed of the language that it runs. A name is looked up
by evaluating an expression, which may run the script once more and may throw.
-/

namespace Volley.Extension

/-- What a module has to have.
mirrors extension:30-37 (`ExtensionShape`) -/
inductive Shape where
  | function
  | scenarios
  | class (name : String)
  deriving DecidableEq, Repr

namespace Shape

def kindName : Shape → String
  | function => "function"
  | scenarios => "object"
  | .class _ => "class"

def symbol : Shape → String
  | function => "shoot"
  | scenarios => "SCENARIOS"
  | .class name => name

end Shape

/-- mirrors extension:51-59 (`ExtensionSpec`) -/
structure Spec where
  path : String
  /-- The name in messages. -/
  unitName : String
  identity : String
  shape : Shape
  deriving DecidableEq, Repr

/-! ## Engines -/

/-- What an engine with contexts `σ` makes of a request. An exception is told by its text; an engine
that breaks tells nothing. -/
abbrev Asked (σ α : Type) := σ → Option (Except String α) × σ

/-- A script engine with objects `ρ`, as far as loading needs it. -/
structure Backend (σ ρ : Type) where
  /-- Starts a thread of a name for the engine. -/
  start : (name : String) → Except String Unit
  /-- Makes the host functions known to scripts. -/
  register : Asked σ Unit
  /-- Runs a text. -/
  run : (text : List Char) → Asked σ Unit
  /-- Evaluates the expression that asks for an identifier: the object that it stands for, if it is
  declared and stands for one. -/
  resolve : (name : String) → Asked σ (Option ρ)
  isCallable : σ → ρ → Bool
  isConstructor : σ → ρ → Bool

/-- Steps of an engine's thread; a fault ends them, and so does a break of the engine. -/
abbrev Loading (σ : Type) := ExceptT Fault (OptionT (StateM σ))

variable {σ ρ α β : Type}

theorem Loading.bind_eq (x : Loading σ α) (f : α → Loading σ β) (s : σ) :
    (x >>= f) s = match x s with
      | (some (.ok a), s') => f a s'
      | (some (.error e), s') => (some (.error e), s')
      | (none, s') => (none, s') := by
  simp only [Bind.bind, ExceptT.bind, ExceptT.mk, OptionT.bind, OptionT.mk, StateT.bind]
  rcases x s with ⟨_ | e | a, s'⟩ <;> rfl

/-- Does what an engine is asked for, with a fault for an exception. -/
def Asked.orFault (x : Asked σ α) (fault : String → Fault) : Loading σ α := fun s =>
  let (answer, s) := x s
  (answer.map (Except.mapError fault), s)

/-! ## Faults -/

namespace Spec

/-- The fault of a name that is no identifier. -/
def invalidName (spec : Spec) : Fault :=
  .extensionLoad ("Invalid " ++ spec.shape.kindName ++ " name '" ++ spec.shape.symbol ++
    "' for '" ++ spec.unitName ++ "' module")

/-- The fault of a text that throws while it runs. -/
def failedRun (spec : Spec) (text : String) : Fault :=
  .extensionLoad ("Failed to evaluate '" ++ spec.unitName ++ "' module: " ++ text)

/-- The fault of a module that does not have what its shape asks for. -/
def missing (spec : Spec) : Fault :=
  .extensionLoad (spec.shape.kindName ++ " '" ++ spec.shape.symbol ++
    "' was not found in '" ++ spec.unitName ++ "' module")

/-- The fault of an engine that breaks before it is ready. -/
def exited (spec : Spec) : Fault :=
  .extensionLoad ("Engine thread for '" ++ spec.unitName ++ "' exited during load")

end Spec

/-- The fault of a name whose expression throws. -/
def unresolved (name text : String) : Fault :=
  .extension ("Failed to resolve '" ++ name ++ "': " ++ text)

/-! ## Stages -/

/-- The text in a file. -/
def readSource (fs : FileSystem) (path : String) : Except Fault (List Char) :=
  match fs.readText path with
  | .ok text => .ok text
  | .error .notFound => .error (.extensionLoad ("Extension file not found: " ++ path))
  | .error e =>
    .error (.extensionLoad ("Failed to read extension file " ++ path ++ ": " ++ e.message))

namespace Backend

/-- The object that a name at the top stands for.
mirrors extension/engine:202-211 (`lookup`) -/
def lookup (b : Backend σ ρ) (name : String) : Loading σ (Option ρ) :=
  if isIdentifier name then (b.resolve name).orFault (unresolved name) else return none

/-- Whether an object is what a shape asks for. -/
def accepts (b : Backend σ ρ) (shape : Shape) (s : σ) (r : ρ) : Bool :=
  match shape with
  | .function => b.isCallable s r
  | .scenarios => true
  | .class _ => b.isConstructor s r

/-- Runs a text and looks for what the unit's shape asks for.
mirrors extension/engine:63-92 (`Engine::load`) -/
def evaluate (b : Backend σ ρ) (spec : Spec) (text : List Char) : Loading σ ρ := do
  b.register.orFault fun e => .extensionLoad ("Failed to register host functions: " ++ e)
  (b.run text).orFault spec.failedRun
  match ← b.lookup spec.shape.symbol with
  | some r => if b.accepts spec.shape (← get) r then return r else throw spec.missing
  | none => throw spec.missing

/-- Loads a unit: the object that it is entered by.
mirrors extension:129-181 (`ExtensionHost::load`) -/
def load (b : Backend σ ρ) (spec : Spec) (fs : FileSystem) (s : σ) : Except Fault ρ × σ :=
  if !isIdentifier spec.shape.symbol then (.error spec.invalidName, s)
  else match readSource fs spec.path with
    | .error e => (.error e, s)
    | .ok text =>
      match b.start ("ext-" ++ spec.identity) with
      | .error e => (.error (.extensionLoad ("Failed to start engine thread: " ++ e)), s)
      | .ok _ =>
        let (loaded, s) := b.evaluate spec text s
        (loaded.getD (.error spec.exited), s)

end Backend

end Volley.Extension
