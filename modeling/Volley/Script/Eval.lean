import Volley.Script.Native

/-!
# Evaluation

Expressions and statements are evaluated by recursion on the syntax; a call is handed to the caller,
which `invoke` supplies with the number of further calls that may nest. A statement gives a value if
it returns. A function literal takes the name of the place that it is written at.
-/

namespace Volley.Script

/-- The most calls that may nest. -/
def maxDepth : Nat := 512

/-- The value of a name declared at the top. -/
def globalValue (call : Caller) (name : String) : Run Value := do
  let m ← get
  match m.lexical.lookup name with
  | some v => return v
  | none =>
    match m.find? Intrinsic.globalObject name with
    | some p => readProperty call (.object Intrinsic.globalObject) (some p)
    | none => raise .reference (name ++ " is not defined")

/-- The value of a name inside a body. -/
def bound (name : String) : Option Value → Run Value
  | some v => return v
  | none => raise .reference (name ++ " is not defined")

/-- A function literal. -/
def makeLiteral (s : Scope) (name : String) (body : List Stmt) (self : SelfRule)
    (hasParameters isConstructor : Bool) : Run Value := do
  return .object (← makeFunction name ⟨body, s, self, hasParameters, isConstructor⟩)

def ownSelf (s : Scope) : SelfRule := if s.strict then .strict else .sloppy

/-- Puts values on an object, in place of what was there. -/
def assignAll (r : Ref) (members : List (String × Value)) : Run Unit :=
  members.forM fun (k, v) => define r k (.plain v)

/-- One more than a value; what counts as false counts as zero. -/
def successor (call : Caller) (v : Value) : Run Value :=
  addValues call (if isTrue v then v else .number 0.0) (.number 1.0)

/-- The parent that an object is made with. -/
def parentOf (v : Value) : Run (Option Ref) := do
  match v with
  | .null => return none
  | .object r => return some r
  | v => raise .type ("Object prototype may only be an Object or null: " ++ (← get).show v)

mutual

/-- The value of an expression written at a place with a name. -/
def eval (call : Caller) (s : Scope) (name : String) : Expr → Run Value
  | .undefined => return .undefined
  | .nan => return .number (0.0 / 0.0)
  | .infinity => return .number (1.0 / 0.0)
  | .literal j => ofJson j
  | .a => bound "a" s.a
  | .b => bound "b" s.b
  | .caught => bound "e" s.caught
  | .self => return s.self
  | .get e key => do getProperty call (← eval call s "" e) key
  | .kindOf e => do
    if s.lacks e then return .string "undefined"
    let v ← eval call s "" e
    return .string (typeName (← get) v)
  | .state key => getProperty call (.object Intrinsic.state) key
  | .method key args => do
    let f ← getProperty call s.self key
    let vs ← evalList call s args
    callValue call f s.self vs
  | .object members => do
    let vs ← evalMembers call s members
    let r ← makePlain []
    assignAll r vs
    return .object r
  | .create parent members => do
    let p ← parentOf (← eval call s "" parent)
    let r ← makeObject .ordinary p []
    assignAll r (← evalMembers call s members)
    return .object r
  | .array elements => do
    return .object (← makeArray Intrinsic.arrayPrototype (← evalList call s elements))
  | .concat parts => evalSum call s (.string "") parts
  | .add [] => return .undefined
  | .add (e :: r) => do evalSum call s (← eval call s "" e) r
  | .stringify e => do
    let v ← eval call s "" e
    match ← stringify call (← get).heap.size "" v with
    | some text => return .string text
    | none => return .undefined
  | .function body => makeLiteral s name body (ownSelf s) true true
  | .arrow body => makeLiteral s name body .enclosing true false
  | .thunk body => makeLiteral s name body .enclosing false false
  | .getter key body => do
    let g ← makeFunction key ⟨body, s, ownSelf s, false, false⟩
    return .object (← makePlain [(key, .accessor (some g) true)])
  | .error kind message extra => do
    let e ← constructError call kind (Intrinsic.errorPrototype kind) [← eval call s "" message]
    let vs ← evalMembers call s extra
    match e with
    | .object r => assignAll r vs
    | _ => pure ()
    return e
  | .measure args => do
    let f ← globalValue call "measure"
    callValue call f .undefined (← evalList call s args)
  | .fetch args => do
    let f ← globalValue call "fetch"
    callValue call f .undefined (← evalList call s args)
  | .bigint n => return .bigint n
  | .symbol => modifyGet fun m => (.symbol m.symbols, { m with symbols := m.symbols + 1 })

def evalList (call : Caller) (s : Scope) : List Expr → Run (List Value)
  | [] => return []
  | e :: r => do
    let v ← eval call s "" e
    return v :: (← evalList call s r)

/-- Adds the values of expressions from the left, each one before the next is evaluated. -/
def evalSum (call : Caller) (s : Scope) (sum : Value) : List Expr → Run Value
  | [] => return sum
  | e :: r => do
    let v ← eval call s "" e
    evalSum call s (← addValues call sum v) r

def evalMembers (call : Caller) (s : Scope) : List (String × Expr) → Run (List (String × Value))
  | [] => return []
  | (k, e) :: r => do
    let v ← eval call s k e
    return (k, v) :: (← evalMembers call s r)

/-- Runs a statement; a value if it returns one. -/
def exec (call : Caller) (s : Scope) : Stmt → Run (Option Value)
  | .return e => do return some (← eval call s "" e)
  | .throw e => do throw (.thrown (← eval call s "" e))
  | .expr e => do
    let _ ← eval call s "" e
    return none
  | .set key e => do
    setProperty s.strict (.object Intrinsic.state) key (← eval call s "" e)
    return none
  | .increment key => do
    let v ← getProperty call (.object Intrinsic.state) key
    setProperty s.strict (.object Intrinsic.state) key (← successor call v)
    return none
  | .selfSet key e => do
    setProperty s.strict s.self key (← eval call s "" e)
    return none
  | .selfIncrement key => do
    let v ← getProperty call s.self key
    setProperty s.strict s.self key (← successor call v)
    return none
  | .whenEqual left right body => do
    let v ← eval call s "" left
    let w ← eval call s "" right
    if v == w then execAll call s body else return none
  | .try body handler =>
    tryCatch (execAll call s body) fun
      | .thrown v => execAll call { s with caught := some v } handler
      | i => throw i

/-- Runs statements up to one that returns. -/
def execAll (call : Caller) (s : Scope) : List Stmt → Run (Option Value)
  | [] => return none
  | st :: r => do
    match ← exec call s st with
    | some v => return some v
    | none => execAll call s r

end

/-! ## Calls -/

/-- What a function called on a value sees as its own. -/
def Closure.selfOf (c : Closure) (self : Value) : Value :=
  match c.self with
  | .enclosing => c.scope.self
  | .strict => self
  | .sloppy =>
    match self with
    | .undefined | .null => .object Intrinsic.globalObject
    | v => v

/-- The scope of a function's body. -/
def Closure.scopeOf (c : Closure) (self : Value) (args : List Value) : Scope :=
  { c.scope with
    self := c.selfOf self
    a := if c.hasParameters then some (args.getD 0 .undefined) else c.scope.a
    b := if c.hasParameters then some (args.getD 1 .undefined) else c.scope.b }

/-- Runs a function's body. -/
def Closure.run (call : Caller) (c : Closure) (self : Value) (args : List Value) : Run Value := do
  return (← execAll call (c.scopeOf self args) c.body).getD .undefined

/-- Calls a function; at most `depth` calls may nest. -/
def invoke : Nat → Caller
  | 0, _, _, _ => throw .tooDeep
  | depth + 1, f, self, args => do
    match (← objectAt f).callable? with
    | some (.closure c) => c.run (invoke depth) self args
    | some (.native n) => callNative (invoke depth) n self args
    | some (.classBody _) => raise .type "class constructor cannot be invoked without 'new'"
    | none => raise .type "not a callable function"

/-! ## Construction -/

/-- Puts the fields of a class on a new object. -/
def initFields (call : Caller) (s : Scope) (r : Ref) (fields : List (String × Expr)) : Run Unit :=
  do
  for (k, e) in fields do
    define r k (.plain (← eval call s k e))

/-- Runs the constructor of a class on a new object; an object that it returns takes the place of
the new one. -/
def finishObject (call : Caller) (c : ClassClosure) (args : List Value) (made : Value) :
    Run Value := do
  match made with
  | .object r =>
    let s := { c.scope with self := made, a := none, b := none }
    initFields call s r c.fields
    match c.constructor with
    | none => return made
    | some body =>
      let s := { s with a := some (args.getD 0 .undefined), b := some (args.getD 1 .undefined) }
      match (← execAll call s body).getD .undefined with
      | .object other => return .object other
      | .undefined => return made
      | _ =>
        if c.parent.isSome then
          raise .type "derived constructor can only return an Object or undefined"
        else return made
  | v => return v

/-- The arguments for the class that a class extends. -/
def ClassClosure.parentArgs (c : ClassClosure) (args : List Value) : List Value :=
  if c.constructor.isSome then [args.getD 0 .undefined, args.getD 1 .undefined] else args

/-- Constructs by a function, for a class that may extend it. -/
def construct : Nat → (f newTarget : Ref) → List Value → Run Value
  | 0, _, _, _ => throw .tooDeep
  | depth + 1, f, newTarget, args => do
    match (← objectAt f).callable? with
    | some (.closure c) =>
      if !c.isConstructor then raise .type "not a constructor"
      let parent ← prototypeFor newTarget Intrinsic.objectPrototype
      let r ← makeObject .ordinary (some parent) []
      match ← c.run (invoke depth) (.object r) args with
      | .object other => return .object other
      | _ => return .object r
    | some (.classBody c) =>
      let made ← match c.parent with
        | some p => construct depth p newTarget (c.parentArgs args)
        | none => do
          let parent ← prototypeFor newTarget Intrinsic.objectPrototype
          pure (.object (← makeObject .ordinary (some parent) []))
      finishObject (invoke depth) c args made
    | some (.native n) =>
      if n.isConstructor then constructNative (invoke depth) n f newTarget args
      else raise .type "not a constructor"
    | none => raise .type "not a constructor"

end Volley.Script
