import Volley.Script.Host

/-!
# Built-in functions

What the built-in functions do when they are called or construct.
-/

namespace Volley.Script

/-- The name of a value's class in brackets. -/
def objectTag (m : Machine) : Value → String
  | .undefined => "[object Undefined]"
  | .null => "[object Null]"
  | .bool _ => "[object Boolean]"
  | .number _ => "[object Number]"
  | .string _ => "[object String]"
  | .bigint _ => "[object BigInt]"
  | .symbol _ => "[object Symbol]"
  | .object r =>
    match (m.object r).kind with
    | .array => "[object Array]"
    | .error _ => "[object Error]"
    | .function _ => "[object Function]"
    | .ordinary => "[object Object]"

/-- The text of a function. -/
def functionText (m : Machine) (r : Ref) : String :=
  "function " ++ (heldText m r "name").getD "" ++ "() \x7b [native code] \x7d"

/-- Puts values at the end of a list; its new length. -/
def pushElements (r : Ref) (args : List Value) : Run Value := do
  let length := lengthOf (← get) r
  for (v, i) in args.zipIdx do
    define r (toString (length + i)) (.plain v)
  let total := Value.ofNat (length + args.length)
  define r "length" (.hidden total)
  return total

/-- The prototype for what a function constructs. -/
def prototypeFor (f : Ref) (fallback : Ref) : Run Ref := do
  match (← get).find? f "prototype" with
  | some (.data (.object p) _) => return p
  | _ => return fallback

/-- What an error constructor makes. -/
def constructError (call : Caller) (kind : ErrorKind) (parent : Ref) (args : List Value) :
    Run Value := do
  match args.getD 0 .undefined with
  | .undefined => return .object (← makeError kind parent none)
  | v => return .object (← makeError kind parent (some (← toText call v)))

/-- A list with one number is of that length, any other has the arguments as its elements. -/
def constructArray (parent : Ref) (args : List Value) : Run Value := do
  match args with
  | [.number x] =>
    let n := x.toUInt32.toNat
    if Float.ofNat n == x then
      let r ← makeArray parent []
      define r "length" (.hidden (.number x))
      return .object r
    else raise .range "invalid array length"
  | args => return .object (← makeArray parent args)

/-- What `Object` makes of its argument. -/
def toObject (args : List Value) : Run Value := do
  match args.getD 0 .undefined with
  | .object r => return .object r
  | _ => return .object (← makePlain [])

/-- Constructs by a built-in class. -/
def constructNative (call : Caller) (n : Native) (self newTarget : Ref) (args : List Value) :
    Run Value := do
  match n with
  | .objectClass =>
    if self = newTarget then toObject args
    else
      let parent ← prototypeFor newTarget Intrinsic.objectPrototype
      return .object (← makeObject .ordinary (some parent) [])
  | .arrayClass => constructArray (← prototypeFor newTarget Intrinsic.arrayPrototype) args
  | .errorClass kind =>
    constructError call kind (← prototypeFor newTarget (Intrinsic.errorPrototype kind)) args
  | .collectionClass _ =>
    match args.getD 0 .undefined with
    | .undefined => return .object (← makePlain [])
    | .null => return .object (← makePlain [])
    | v => raise .type ("value with type \x60" ++ typeName (← get) v ++ "\x60 is not iterable")
  | .measure => measure call args
  | .fetch => fetch args
  | _ =>
    let parent ← prototypeFor newTarget Intrinsic.objectPrototype
    return .object (← makeObject .ordinary (some parent) [])

/-- The name and the message of an object that is written as an error. -/
def errorObjectText (call : Caller) (self : Value) : Run String := do
  let name ← match ← getProperty call self "name" with
    | .undefined => pure "Error"
    | v => toText call v
  let message ← match ← getProperty call self "message" with
    | .undefined => pure ""
    | v => toText call v
  return if name.isEmpty then message else if message.isEmpty then name else name ++ ": " ++ message

/-- Calls a built-in function. -/
def callNative (call : Caller) (n : Native) (self : Value) (args : List Value) : Run Value := do
  match n with
  | .objectClass => toObject args
  | .arrayClass => constructArray Intrinsic.arrayPrototype args
  | .errorClass kind => constructError call kind (Intrinsic.errorPrototype kind) args
  | .measure => measure call args
  | .fetch => fetch args
  | .objectToString => return .string (objectTag (← get) self)
  | .objectValueOf =>
    match self with
    | .undefined => raise .type noObject
    | .null => raise .type noObject
    | v => return v
  | .hasOwnProperty =>
    let key ← toText call (args.getD 0 .undefined)
    match self with
    | .undefined => raise .type noObject
    | .null => raise .type noObject
    | .object r => return .bool ((← objectAt r).own? key).isSome
    | _ => return .bool false
  | .functionToString =>
    match self with
    | .object r =>
      if (← objectAt r).isCallable then return .string (functionText (← get) r)
      else raise .type "not a function"
    | _ => raise .type "not a function"
  | .arrayToString =>
    match self with
    | .undefined => raise .type noObject
    | .null => raise .type noObject
    | v =>
      let f ← getProperty call v "join"
      if (← get).isCallable f then callValue call f v []
      else return .string (objectTag (← get) v)
  | .arrayJoin =>
    let separator ← match args.getD 0 .undefined with
      | .undefined => pure ","
      | v => toText call v
    match self with
    | .object r => return .string (← joinElements call r (lengthOf (← get) r) separator)
    | _ => return .string ""
  | .arrayPush =>
    match self with
    | .undefined => raise .type noObject
    | .null => raise .type noObject
    | .object r => pushElements r args
    | _ => return .ofNat args.length
  | .errorToString =>
    match self with
    | .object _ => return .string (← errorObjectText call self)
    | _ => raise .type "'this' is not an Object"
  | .collectionClass _ => raise .type "calling a builtin constructor without new is forbidden"
  | .plainClass _ => return .string (← toText call (args.getD 0 (.string "")))
  | .idle _ => return .number (0.0 / 0.0)

end Volley.Script
