import Volley.Script.Eval

/-!
# Running a module

Functions and variables are declared before the first statement runs; the rest happens in order.
-/

namespace Volley.Script

/-- The scope outside all bodies. -/
def topScope : Scope := ⟨.object Intrinsic.globalObject, none, none, none, false⟩

/-- The scope of a class body. -/
def classScope : Scope := { topScope with strict := true }

def defineGlobal (name : String) (v : Value) : Run Unit :=
  define Intrinsic.globalObject name (.plain v)

def declareLexical (name : String) (v : Value) : Run Unit :=
  modify fun m => { m with lexical := (name, v) :: m.lexical }

/-- A method or a getter of a class. -/
def makeMethod (name : String) (body : List Stmt) (hasParameters : Bool) : Run Ref :=
  makeFunction name ⟨body, classScope, .strict, hasParameters, false⟩

/-- The class that a class extends, and the parent of its prototype. -/
def parentClass (call : Caller) (name : String) : Run (Ref × Option Ref) := do
  match ← globalValue call name with
  | .object f =>
    if !(← objectAt f).isConstructor then raise .type "superclass must be a constructor"
    match ← getProperty call (.object f) "prototype" with
    | .object p => return (f, some p)
    | .null => return (f, none)
    | _ => raise .type "superclass prototype must be an object or null"
  | _ => raise .type "superclass must be a constructor"

/-- Makes a class. -/
def makeClass (call : Caller) (name : String) (body : ClassBody) : Run Ref := do
  let (parent, protoParent) ← match body.parent with
    | some p => do
      let (f, proto) ← parentClass call p
      pure (some f, proto)
    | none => pure (none, some Intrinsic.objectPrototype)
  let proto ← makeObject .ordinary protoParent []
  let length := if body.constructor.isSome then 2 else 0
  let f ← makeObject
    (.function (.classBody ⟨parent, body.constructor, body.fields, classScope⟩))
    (some (parent.getD Intrinsic.functionPrototype))
    [("length", .hidden (.ofNat length)), ("name", .hidden (.string name)),
      ("prototype", .hidden (.object proto))]
  define proto "constructor" (.hidden (.object f))
  for (k, b) in body.methods do
    define proto k (.hidden (.object (← makeMethod k b true)))
  for (k, b) in body.getters do
    define proto k (.accessor (some (← makeMethod k b false)) false)
  for (k, b) in body.statics do
    define f k (.hidden (.object (← makeMethod k b true)))
  return f

/-- What is declared before the first statement runs. -/
def hoist : Declaration → Run Unit
  | .function name body => do
    defineGlobal name (.object (← makeFunction name ⟨body, topScope, .sloppy, true, true⟩))
  | .binding .var name _ => do
    if ((← get).find? Intrinsic.globalObject name).isNone then defineGlobal name .undefined
  | _ => return

/-- Runs a declaration in its turn. -/
def declare (call : Caller) : Declaration → Run Unit
  | .function .. => return
  | .binding .var name e => do defineGlobal name (← eval call topScope name e)
  | .binding _ name e => do declareLexical name (← eval call topScope name e)
  | .class name body => do declareLexical name (.object (← makeClass call name body))
  | .statement s => do
    let _ ← exec call topScope s
    return

/-- Runs a module. -/
def runModule (call : Caller) (module : Module) : Run Unit := do
  module.forM hoist
  module.forM (declare call)

end Volley.Script
