import Volley.About
import Volley.Time.Basic
import Volley.Url.Address

/-!
# HTTP exchanges

A network answers a request as it likes: it may go by all the requests before, and it may take its
time. A client builds a request, sends it, and follows redirects, ten at the most, as long as its
time limit lasts. What a client gets is a failure before the status, or a status and then the body
or a failure while reading it.
-/

namespace Volley.Http

open Url (Address)

/-- Why an exchange fails. -/
inductive Failure where
  /-- There is no request to send. -/
  | builder (address : Option String)
  | connect (address : String)
  | timeout (address : String)
  /-- The connection ended before the status. -/
  | closed (address : String)
  | redirects (address : String)
  /-- The body ended early. -/
  | body
  /-- The body did not come in time. -/
  | bodyTimeout
  deriving DecidableEq, Repr

namespace Failure

def concerning (what address : String) : String := what ++ " for url (" ++ address ++ ")"

def message : Failure → String
  | builder none => "builder error"
  | builder (some a) => concerning "builder error" a
  | connect a => concerning "error sending request" a
  | timeout a => concerning "error sending request" a
  | closed a => concerning "error sending request" a
  | redirects a => concerning "error following redirect" a
  | body => "error decoding response body"
  | bodyTimeout => "error decoding response body"

def isTimeout : Failure → Bool
  | timeout _ | bodyTimeout => true
  | _ => false

def isConnect : Failure → Bool
  | connect _ => true
  | _ => false

end Failure

structure Request where
  method : String
  address : Address
  headers : List (String × String)
  body : Option (List UInt8)
  deriving DecidableEq, Repr

/-- Something that comes after so many nanoseconds, if ever. -/
structure Coming (α : Type) where
  value : α
  after : Option Nat

namespace Coming

variable {α : Type}

def atOnce (a : α) : Coming α := ⟨a, some 0⟩

/-- What comes while time is left, and the time that is left then. -/
def within (c : Coming α) (left : Nat) : Option (α × Nat) :=
  match c.after with
  | some after => if after < left then some (c.value, left - after) else none
  | none => none

end Coming

inductive Body where
  | whole (bytes : List UInt8)
  /-- It ends before its announced length. -/
  | truncated
  deriving DecidableEq, Repr

/-- What a network makes of a request. -/
inductive Reply where
  /-- Nothing listens there. -/
  | refused
  /-- The connection ends before the status. -/
  | closed
  | status (status : Nat) (location : Option String) (body : Coming Body)

/-- What the requests so far come to, of which the latest is the first, and these requests. A
request that is sent joins them, so that a network can answer the same request in one way now and in
another way later. -/
structure Network where
  respond : List Request → Coming Reply
  sent : List Request

/-- The network in which nothing listens. -/
def Network.silent : Network := ⟨fun _ => .atOnce .refused, []⟩

/-- A status, and the body or why it could not be read. -/
structure Response where
  status : Nat
  body : Except Failure (List UInt8)

/-! ## Requests -/

/-- A character of a method or of a header's name. -/
def isTokenChar (c : Char) : Bool :=
  c.isAlphanum ||
    ['!', '#', '$', '%', '&', '\x27', '*', '+', '-', '.', '^', '_', '\x60', '|', '~'].contains c

def isToken (s : String) : Bool := !s.isEmpty && s.all isTokenChar

def isHeaderValue (s : String) : Bool :=
  s.all fun c => (32 ≤ c.toNat && c.toNat != 127) || c == '\t'

def userAgent : String × String := ("user-agent", About.name ++ "/" ++ About.version)

/-- The request for an address, if all of it is well formed. -/
def Request.build (method address : String) (headers : List (String × String))
    (body : Option (List UInt8)) : Except Failure Request :=
  match Address.parse address with
  | .error _ => .error (.builder none)
  | .ok a =>
    match a.host with
    | none => .error (.builder (some a.render))
    | some _ =>
      let a := { a with username := "", password := "" }
      if !headers.all fun (k, v) => isToken k && isHeaderValue v then .error (.builder none)
      else if a.scheme != "http" && a.scheme != "https" then .error (.builder (some a.render))
      else
        .ok ⟨method, a, userAgent :: headers.map fun (k, v) => (k.map Char.toLower, v), body⟩

/-! ## Exchanges -/

def isRedirect (status : Nat) : Bool := [301, 302, 303, 307, 308].contains status

/-- The request that a redirect leads to. -/
def Request.redirected (r : Request) (status : Nat) (address : Address) : Request :=
  if [301, 302, 303].contains status then
    { r with
      address
      method := if r.method == "HEAD" then "HEAD" else "GET"
      headers := r.headers.filter (·.1 != "content-type")
      body := none }
  else { r with address }

/-- One request and what comes back. -/
def Network.once (n : Network) (r : Request) : Network × Coming Reply :=
  ({ n with sent := r :: n.sent }, n.respond (r :: n.sent))

/-- What a client makes of an answer. -/
inductive Step where
  | done (result : Except Failure Response)
  | follow (next : Request) (left : Nat)

/-- The request that a status with a location leads to, if it is a redirect. -/
def Request.next? (r : Request) (status : Nat) (location : Option String) : Option Request :=
  match location with
  | none => none
  | some reference =>
    if isRedirect status then (r.address.join reference).toOption.map (r.redirected status) else none

/-- Reads a body in the time that is left. -/
def Request.receive (r : Request) (left : Nat) (body : Coming Body) : Except Failure (List UInt8) :=
  match body.within left with
  | none => .error .bodyTimeout
  | some (.truncated, _) => .error .body
  | some (.whole bytes, _) => .ok (if r.method == "HEAD" then [] else bytes)

/-- What a client makes of the answer to a request in the time that is left. -/
def Request.step (r : Request) (left : Nat) (reply : Coming Reply) : Step :=
  match reply.within left with
  | none => .done (.error (.timeout r.address.render))
  | some (.refused, _) => .done (.error (.connect r.address.render))
  | some (.closed, _) => .done (.error (.closed r.address.render))
  | some (.status status location body, left) =>
    match r.next? status location with
    | some next => .follow next left
    | none => .done (.ok ⟨status, r.receive left body⟩)

/-- Sends a request and follows up to `more` redirects. -/
def Network.send : Nat → Network → Nat → Request → Network × Except Failure Response
  | more, n, left, r =>
    let (n, reply) := n.once r
    match r.step left reply with
    | .done result => (n, result)
    | .follow next left =>
      match more with
      | 0 => (n, .error (.redirects r.address.render))
      | more + 1 => Network.send more n left next

/-- Builds a request and sends it; all of the exchange takes place within a time limit. -/
def Network.exchange (n : Network) (limit : Span) (method address : String)
    (headers : List (String × String)) (body : Option (List UInt8)) :
    Network × Except Failure Response :=
  match Request.build method address headers body with
  | .error e => (n, .error e)
  | .ok r => Network.send 10 n limit.toNanos r

end Volley.Http
