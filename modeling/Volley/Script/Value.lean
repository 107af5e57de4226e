import Volley.Script.Syntax
import Volley.Text.Hex

/-!
# Script values and objects

A value is a primitive or a reference to an object in the heap. An object has a kind, a parent in
its prototype chain, and properties in the order in which they were made. A property holds a value
or a getter.
-/

namespace Volley.Script

abbrev Ref := Nat

inductive Value where
  | undefined
  | null
  | bool (b : Bool)
  | number (x : Float)
  | string (s : String)
  | bigint (n : Int)
  | symbol (id : Nat)
  | object (r : Ref)
  deriving BEq, Repr, Inhabited

/-- What the names inside a body stand for; a name without a value is not declared there. -/
structure Scope where
  self : Value
  a : Option Value
  b : Option Value
  caught : Option Value
  /-- Whether the code belongs to a class. -/
  strict : Bool
  deriving Inhabited

/-- How a function takes the value that it is called on. -/
inductive SelfRule where
  /-- An arrow function keeps the one around it. -/
  | enclosing
  /-- Undefined and null become the global object. -/
  | sloppy
  | strict
  deriving DecidableEq, Repr

/-- Whether an expression is a name that is not declared there. -/
def Scope.lacks (s : Scope) : Expr → Bool
  | .a => s.a.isNone
  | .b => s.b.isNone
  | .caught => s.caught.isNone
  | _ => false

/-- A function of the script, with what it saw where it was made. -/
structure Closure where
  body : List Stmt
  scope : Scope
  self : SelfRule
  /-- Whether it has the two parameters. -/
  hasParameters : Bool
  isConstructor : Bool

/-- A class, with the class it extends. -/
structure ClassClosure where
  parent : Option Ref
  constructor : Option (List Stmt)
  fields : List (String × Expr)
  scope : Scope

/-- The functions that are there from the start. -/
inductive Native where
  | objectClass
  | arrayClass
  | errorClass (kind : ErrorKind)
  /-- A class whose instances are plain objects here. -/
  | plainClass (name : String)
  /-- A class whose constructor wants something to iterate over. -/
  | collectionClass (name : String)
  | measure
  | fetch
  | objectToString
  | objectValueOf
  | hasOwnProperty
  | functionToString
  | arrayToString
  | arrayJoin
  | arrayPush
  | errorToString
  /-- A function that is never called here. -/
  | idle (name : String)
  deriving DecidableEq, Repr

namespace Native

def name : Native → String
  | objectClass => "Object"
  | arrayClass => "Array"
  | errorClass k => k.name
  | plainClass n => n
  | collectionClass n => n
  | measure => "measure"
  | fetch => "fetch"
  | objectToString | functionToString | arrayToString | errorToString => "toString"
  | objectValueOf => "valueOf"
  | hasOwnProperty => "hasOwnProperty"
  | arrayJoin => "join"
  | arrayPush => "push"
  | idle n => n

/-- The number of parameters it is said to have. -/
def arity : Native → Nat
  | objectToString | functionToString | arrayToString | errorToString | objectValueOf => 0
  | collectionClass _ => 0
  | plainClass "Date" => 7
  | plainClass "RegExp" | measure | fetch | idle "parseInt" => 2
  | _ => 1

def isConstructor : Native → Bool
  | objectClass | arrayClass | errorClass _ | plainClass _ | collectionClass _ | measure
  | fetch => true
  | _ => false

end Native

inductive Callable where
  | closure (c : Closure)
  | classBody (c : ClassClosure)
  | native (n : Native)

def Callable.isConstructor : Callable → Bool
  | closure c => c.isConstructor
  | classBody _ => true
  | native n => n.isConstructor

inductive Kind where
  | ordinary
  | array
  | error (kind : ErrorKind)
  | function (c : Callable)

inductive Property where
  | data (value : Value) (enumerable : Bool)
  /-- Reading the property calls the function, if there is one. -/
  | accessor (getter : Option Ref) (enumerable : Bool)
  deriving Inhabited

namespace Property

def plain (v : Value) : Property := .data v true

def hidden (v : Value) : Property := .data v false

def isEnumerable : Property → Bool
  | data _ e => e
  | accessor _ e => e

end Property

structure Object where
  kind : Kind
  parent : Option Ref
  properties : List (String × Property)

instance : Inhabited Object := ⟨⟨.ordinary, none, []⟩⟩

/-- The number that a key of a list writes, if it does. -/
def index? (key : String) : Option Nat :=
  match key.toList with
  | ['0'] => some 0
  | c :: r =>
    if c == '0' || !(c :: r).all Char.isDigit || 10 < (c :: r).length then none
    else
      let n := (c :: r).foldl (fun n d => n * 10 + (d.toNat - 48)) 0
      if n < 0xFFFFFFFF then some n else none
  | [] => none

namespace Object

def callable? (o : Object) : Option Callable :=
  match o.kind with
  | .function c => some c
  | _ => none

def isCallable (o : Object) : Bool := o.callable?.isSome

def isConstructor (o : Object) : Bool :=
  match o.callable? with
  | some c => c.isConstructor
  | none => false

def isArray (o : Object) : Bool :=
  match o.kind with
  | .array => true
  | _ => false

def own? (o : Object) (key : String) : Option Property := o.properties.lookup key

/-- Puts a property in place of the one with that key, or at the end. -/
def putProperty (key : String) (p : Property) : List (String × Property) → List (String × Property)
  | [] => [(key, p)]
  | (k, q) :: r => if k = key then (k, p) :: r else (k, q) :: putProperty key p r

def put (o : Object) (key : String) (p : Property) : Object :=
  { o with properties := putProperty key p o.properties }

/-- A list with room for an element at a place. -/
def reach (o : Object) (i : Nat) : Object :=
  match o.kind, o.own? "length" with
  | .array, some (.data (.number x) _) =>
    if x ≤ Float.ofNat i then o.put "length" (.hidden (.number (Float.ofNat (i + 1)))) else o
  | _, _ => o

/-- A list without the elements beyond a length. -/
def cutTo (o : Object) (length : Nat) : Object :=
  { o with
    properties := o.properties.filter fun e => (index? e.1).elim true (· < length) }.put "length"
      (.hidden (.number (Float.ofNat length)))

/-- Puts a property on an object; a list grows with its elements. -/
def define (o : Object) (key : String) (p : Property) : Object :=
  match index? key with
  | some i => (o.reach i).put key p
  | none => o.put key p

end Object

def insertByIndex (i : Nat) (e : String × Property) :
    List (Nat × String × Property) → List (Nat × String × Property)
  | [] => [(i, e)]
  | (j, f) :: r => if i < j then (i, e) :: (j, f) :: r else (j, f) :: insertByIndex i e r

/-- The properties in their order: index keys first, rising, then the others as they were made. -/
def Object.ordered (o : Object) : List (String × Property) :=
  let indexed := o.properties.foldl (fun acc e =>
    match index? e.1 with
    | some i => insertByIndex i e acc
    | none => acc) []
  indexed.map (·.2) ++ o.properties.filter fun e => (index? e.1).isNone

/-- The length of a text in 16-bit units. -/
def units16 (s : String) : Nat :=
  s.toList.foldl (fun n c => n + if c.toNat < 0x10000 then 1 else 2) 0

/-- The escape of a 16-bit unit. -/
def escapedUnit (n : Nat) : String :=
  let digits := [n / 0x1000, n / 0x100 % 16, n / 0x10 % 16, n % 16]
  "\\u" ++ .ofList (digits.map fun d => (Text.Hex.digit d).toUpper)

/-- The 16-bit units of a text; half a character is written as an escape. -/
def units (s : String) : List String :=
  s.toList.flatMap fun c =>
    if c.toNat < 0x10000 then [c.toString]
    else
      let n := c.toNat - 0x10000
      [escapedUnit (0xD800 + n / 0x400), escapedUnit (0xDC00 + n % 0x400)]

/-- A number with the value of a natural number. -/
def Value.ofNat (n : Nat) : Value := .number (Float.ofNat n)

end Volley.Script
