import Volley.Script.Json
import Volley.Script.Display
import Volley.Text.Case

/-!
# Host functions

`measure(marker, body)` runs the body in a measured scope of its own: an object that the body
returns assigns figures of the record, and an exception marks the record as failed and goes on.
`fetch(url, init)` makes an HTTP request and returns the answer as an object, or throws an error
that carries the network code of the failure.
-/

namespace Volley.Script

/-! ## Measured scopes -/

/-- The integer of 32 bits that a number is cut to. -/
def cutToCode (x : Float) : Int32 :=
  .ofInt (Numeral.integerIn (-Numeral.maxI32 - 1) Numeral.maxI32 Numeral.Binary.whole x)

/-- The network code that a thrown object carries.
mirrors extension/host:179-183 (`thrown_net_code`) -/
def thrownCode (call : Caller) (v : Value) : Run (Option Int32) := do
  match v with
  | .object _ =>
    match ← attempt (getProperty call v "net_code") with
    | some (.number x) => return some (cutToCode x)
    | _ => return none
  | _ => return none

/-- Opens a scope and counts it. -/
def openScope (marker : String) : Run Shot := do
  modifyGet fun m =>
    let (shot, world) := m.world.openShot marker
    (shot, { m with steps := m.steps + 1, world })

/-- Ends a scope. -/
def closeScope (shot : Shot) (ending : Shot.Ending) : Run Unit := do
  modify fun m => { m with world := m.world.closeShot shot ending }

/-- The record of a scope whose body returned a value. An object that is no function assigns
figures. -/
def Shot.returned (m : Machine) (shot : Shot) (v : Value) : Except JsonFault Shot :=
  match v with
  | .object r =>
    if (m.object r).isCallable then .ok shot
    else match m.json v with
      | .ok fields => .ok { shot with record := (shot.record.override fields).1 }
      | .error (.refused _) => .ok shot
      | .error .broken => .error .broken
  | _ => .ok shot

/-- The scope of a body that threw a value: failed, with the network code that the value carries.
The value is described for the log. -/
def Shot.threw (call : Caller) (shot : Shot) (v : Value) : Run Shot := do
  let code ← thrownCode call v
  let _ ← describe call (.thrown v)
  match code with
  | some c => return { shot with record := { shot.fail.record with netCode := c } }
  | none => return shot.fail

/-- Runs the body of a scope: the scope as the body leaves it, and what the body comes to. -/
def runBody (call : Caller) (shot : Shot) (body : Ref) : Run (Shot × Except Interrupt Value) :=
  tryCatch
    (do
      let v ← call body .undefined []
      match Shot.returned (← get) shot v with
      | .ok shot => return (shot, .ok v)
      | .error _ => throw .crash)
    fun
    | .thrown v => do return (← Shot.threw call shot v, .error (.thrown v))
    | .tooDeep => return (shot.fail, .error .tooDeep)
    | .crash => throw .crash

/-- Runs a body in a scope of its own, which a crash ends on its way.
mirrors extension/host:189-219 (`measure`) -/
def runScope (call : Caller) (marker : String) (body : Ref) : Run Value := do
  let shot ← openScope marker
  let (shot, result) ← tryCatch (runBody call shot body) fun i => do
    closeScope shot .panicked
    throw i
  closeScope shot .completed
  match result with
  | .ok v => return v
  | .error i => throw i

/-- The host function `measure`.
mirrors extension/host:189-219 (`measure`) -/
def measure (call : Caller) (args : List Value) : Run Value := do
  match args.getD 0 .undefined with
  | .string marker =>
    match args.getD 1 .undefined with
    | .object body =>
      if (← objectAt body).isCallable then runScope call marker body
      else raise .type "measure: body must be a function"
    | _ => raise .type "measure: body must be a function"
  | _ => raise .type "measure: marker must be a string"

/-! ## Requests -/

/-- The text of a JSON value, where a string stands for itself. -/
def plainText : Json → String
  | .string s => s
  | j => j.render

/-- What a script asks for. -/
structure Wanted where
  method : String
  headers : List (String × String)
  body : Option String

/-- Reads the second argument of a request. -/
def Wanted.ofJson (init : Json) : Wanted where
  method := Text.uppered (((init.get? "method").bind Json.asString?).getD "GET")
  headers := match init.get? "headers" with
    | some (.object members) => (Json.sorted members).map fun (k, j) => (k, plainText j)
    | _ => []
  body := match init.get? "body" with
    | none => none
    | some .null => none
    | some j => some (plainText j)

/-- The answer as a script sees it. -/
def responseJson (status : Nat) (body : List UInt8) (sizeOut : Nat) : Json :=
  .object [("body", .string (.ofList (Text.Utf8.decodeLossy body))),
    ("ok", .bool (200 ≤ status && status < 300)), ("proto_code", .ofNat status),
    ("size_in", .ofNat body.length), ("size_out", .ofNat sizeOut), ("status", .ofNat status)]

/-- The network code of a failed exchange. -/
def failureCode (e : Http.Failure) : Int32 :=
  if e.isTimeout then Code.netTimedOut else Code.netTransport

def throwFailure (e : Http.Failure) : Run Value := do
  let r ← makeError .type (Intrinsic.errorPrototype .type) (some ("fetch failed: " ++ e.message))
  define r "net_code" (.plain (.number (Float.ofInt (failureCode e).toInt)))
  throw (.thrown (.object r))

/-- Sends a request on the network of the world. -/
def exchange (address : String) (w : Wanted) : Run (Except Http.Failure Http.Response) :=
  modifyGet fun m =>
    let body := w.body.map Text.Utf8.bytesOf
    let (result, world) := m.world.exchange m.limit w.method address w.headers body
    (result, { m with world })

/-- The JSON form of an argument that may be missing. -/
def initJson (v : Value) : Run Json := do
  match v with
  | .undefined => return .null
  | .null => return .null
  | v =>
    match (← get).json v with
    | .ok j => return j
    | .error (.refused message) => raise .type message
    | .error .broken => throw .crash

/-- The host function `fetch`.
mirrors extension/host:100-176 (`fetch`) -/
def fetch (args : List Value) : Run Value := do
  match args.getD 0 .undefined with
  | .string address =>
    let wanted := Wanted.ofJson (← initJson (args.getD 1 .undefined))
    if !Http.isToken wanted.method then
      raise .type ("fetch: invalid method '" ++ wanted.method ++ "'")
    let sizeOut := (wanted.body.map String.utf8ByteSize).getD 0
    match ← exchange address wanted with
    | .ok ⟨status, .ok body⟩ => Script.ofJson (responseJson status body sizeOut)
    | .ok ⟨_, .error e⟩ => throwFailure e
    | .error e => throwFailure e
  | _ => raise .type "fetch: url must be a string"

end Volley.Script
