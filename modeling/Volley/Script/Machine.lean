import Volley.Script.Value
import Volley.World

/-!
# The state of a script

The heap, the names declared at the top, and the world the script acts on. A computation ends with a
result or is interrupted: by an exception, which a handler can catch, by too deep a nesting of
calls, or by a crash of the engine, which nothing catches.

Limitations: the objects that are always there have the properties that are listed here and no
others. Functions have no `call`, `apply` or `bind`; objects have no `__proto__`, so that this key is
one like any other in literals and assignments, and no `__defineGetter__` and the like; `Math`,
`JSON` and `Reflect` are empty.
-/

namespace Volley.Script

inductive Interrupt where
  | thrown (v : Value)
  | tooDeep
  | crash
  deriving BEq, Repr, Inhabited

/-- What a script keeps between calls. -/
structure Memory where
  heap : Array Object
  /-- The names declared by `let`, `const` and `class`. -/
  lexical : List (String × Value)
  /-- How many symbols were made. -/
  symbols : Nat
  /-- How many measured scopes were opened since this was last set to zero. -/
  steps : Nat
  /-- The time that a request of the script may take. -/
  limit : Span

structure Machine extends Memory where
  world : World

abbrev Run := ExceptT Interrupt (StateM Machine)

/-- Calls a function on a value with arguments. -/
abbrev Caller := Ref → Value → List Value → Run Value

namespace Machine

def object (m : Machine) (r : Ref) : Object := m.heap.getD r default

/-- The property with a key on the first object of the prototype chain that has one. -/
def findFrom (m : Machine) (key : String) : Nat → Ref → Option Property
  | 0, _ => none
  | limit + 1, r =>
    match (m.object r).own? key with
    | some p => some p
    | none =>
      match (m.object r).parent with
      | some p => findFrom m key limit p
      | none => none

def find? (m : Machine) (r : Ref) (key : String) : Option Property :=
  m.findFrom key m.heap.size r

def isCallable (m : Machine) : Value → Bool
  | .object r => (m.object r).isCallable
  | _ => false

end Machine

/-! ## Objects that are always there -/

namespace Intrinsic

def objectPrototype : Ref := 0

def functionPrototype : Ref := 1

def arrayPrototype : Ref := 2

def errorPrototype : ErrorKind → Ref
  | .error => 3
  | .type => 4
  | .range => 5
  | .syntaxError => 6
  | .reference => 7
  | .eval => 8
  | .uri => 9

def globalObject : Ref := 10

/-- The object that scripts keep their state in. -/
def state : Ref := 11

/-- The native functions, in the order of their places after the state. -/
def natives : List Native :=
  [.objectClass, .arrayClass] ++ ErrorKind.all.map .errorClass ++
    [.measure, .fetch, .objectToString, .objectValueOf, .hasOwnProperty, .functionToString,
      .arrayToString, .arrayJoin, .arrayPush, .errorToString, .plainClass "String",
      .plainClass "Number", .plainClass "Boolean", .plainClass "Date", .plainClass "RegExp",
      .collectionClass "Map", .collectionClass "Set", .idle "parseInt", .idle "parseFloat",
      .idle "isNaN", .idle "isFinite"]

def native (n : Native) : Ref := 12 + natives.idxOf n

/-- The objects that are only names for what is in them. -/
def namespaces : List String := ["Math", "JSON", "Reflect"]

def hiddenMethod (n : Native) : String × Property := (n.name, .hidden (.object (native n)))

def prototypeOf : Native → Ref
  | .arrayClass => arrayPrototype
  | .errorClass k => errorPrototype k
  | _ => objectPrototype

def nativeObject (n : Native) : Object where
  kind := .function (.native n)
  parent := some (match n with
    | .errorClass .error => functionPrototype
    | .errorClass _ => native (.errorClass .error)
    | _ => functionPrototype)
  properties :=
    [("length", .hidden (.ofNat n.arity)), ("name", .hidden (.string n.name))] ++
      match n with
      | .measure | .fetch => []
      | n => if n.isConstructor then [("prototype", .hidden (.object (prototypeOf n)))] else []

def errorPrototypeObject (k : ErrorKind) : Object where
  kind := .ordinary
  parent := some (if k = .error then objectPrototype else errorPrototype .error)
  properties :=
    [("constructor", .hidden (.object (native (.errorClass k)))),
      ("name", .hidden (.string k.name)), ("message", .hidden (.string ""))] ++
      if k = .error then [hiddenMethod .errorToString] else []

/-- The names of the native functions that scripts see. -/
def globals : List (String × Property) :=
  (natives.filter fun n => n.isConstructor || match n with
    | .idle _ => true
    | _ => false).map hiddenMethod

def plainObject : Object := ⟨.ordinary, some objectPrototype, []⟩

/-- The heap before a script runs, with what scripts use of the built-in objects. -/
def heap : Array Object :=
  let objectProto : Object := ⟨.ordinary, none,
    [("constructor", .hidden (.object (native .objectClass))), hiddenMethod .hasOwnProperty,
      hiddenMethod .objectToString, hiddenMethod .objectValueOf]⟩
  let functionProto : Object := ⟨.ordinary, some objectPrototype,
    [("length", .hidden (.ofNat 0)), ("name", .hidden (.string "")),
      hiddenMethod .functionToString]⟩
  let arrayProto : Object := ⟨.ordinary, some objectPrototype,
    [("length", .hidden (.ofNat 0)), ("constructor", .hidden (.object (native .arrayClass))),
      hiddenMethod .arrayToString, hiddenMethod .arrayJoin, hiddenMethod .arrayPush]⟩
  let first := 12 + natives.length
  let global : Object := ⟨.ordinary, some objectPrototype,
    globals ++ (namespaces.zipIdx.map fun (n, i) => (n, .hidden (.object (first + i)))) ++
      [("globalThis", .hidden (.object globalObject)), ("S", .hidden (.object state))]⟩
  (([objectProto, functionProto, arrayProto] ++ ErrorKind.all.map errorPrototypeObject ++
    [global, plainObject] ++ natives.map nativeObject ++
    List.replicate namespaces.length plainObject)).toArray

end Intrinsic

/-- The memory before a script runs. -/
def Memory.start (limit : Span) : Memory := ⟨Intrinsic.heap, [], 0, 0, limit⟩

/-! ## Primitive steps -/

def objectAt (r : Ref) : Run Object := return (← get).object r

/-- Makes an object. -/
def allocate (o : Object) : Run Ref :=
  modifyGet fun m => (m.heap.size, { m with heap := m.heap.push o })

/-- Puts a property on an object itself. -/
def define (r : Ref) (key : String) (p : Property) : Run Unit :=
  modify fun m => { m with heap := m.heap.setIfInBounds r ((m.object r).define key p) }

/-- Makes an object with properties. -/
def makeObject (kind : Kind) (parent : Option Ref) (properties : List (String × Property)) :
    Run Ref :=
  allocate { kind, parent, properties }

def makePlain (properties : List (String × Property)) : Run Ref :=
  makeObject .ordinary (some Intrinsic.objectPrototype) properties

/-- Makes a list. -/
def makeArray (parent : Ref) (elements : List Value) : Run Ref :=
  makeObject .array (some parent)
    ((elements.zipIdx.map fun (v, i) => (toString i, .plain v)) ++
      [("length", .hidden (.ofNat elements.length))])

/-- Makes an error with a message. -/
def makeError (kind : ErrorKind) (parent : Ref) (message : Option String) : Run Ref :=
  makeObject (.error kind) (some parent)
    ((message.map fun s => ("message", .hidden (.string s))).toList)

/-- Makes an error and throws it. -/
def raise {α : Type} (kind : ErrorKind) (message : String) : Run α := do
  let r ← makeError kind (Intrinsic.errorPrototype kind) (some message)
  throw (.thrown (.object r))

/-- Makes a function; one that constructs gets a prototype object. -/
def makeFunction (name : String) (c : Closure) : Run Ref := do
  let length := if c.hasParameters then 2 else 0
  let properties := [("length", Property.hidden (.ofNat length)), ("name", .hidden (.string name))]
  let f ← makeObject (.function (.closure c)) (some Intrinsic.functionPrototype) properties
  if c.isConstructor then
    let p ← makePlain [("constructor", .hidden (.object f))]
    define f "prototype" (.hidden (.object p))
  return f

end Volley.Script
