import Volley.Json.Basic

/-!
# Script modules

A module is a list of declarations and statements, run in order. The language has functions and
arrow functions, classes with single inheritance, object literals with getters, exceptions, and two
host functions, `measure` and `fetch`. Every function that has parameters has the two parameters
`a` and `b`. One global object, the state, is there for what outlives a call.
-/

namespace Volley.Script

/-- The kinds of built-in errors. -/
inductive ErrorKind where
  | error
  | type
  | range
  | syntaxError
  | reference
  | eval
  | uri
  deriving DecidableEq, Repr, Inhabited

namespace ErrorKind

/-- The name of the error's class. -/
def name : ErrorKind → String
  | error => "Error"
  | type => "TypeError"
  | range => "RangeError"
  | syntaxError => "SyntaxError"
  | reference => "ReferenceError"
  | eval => "EvalError"
  | uri => "URIError"

/-- The kind as it stands in front of the message of an uncaught error. -/
def title : ErrorKind → String
  | uri => "UriError"
  | k => k.name

def all : List ErrorKind := [error, type, range, syntaxError, reference, eval, uri]

end ErrorKind

mutual

inductive Expr where
  | undefined
  | nan
  | infinity
  | literal (value : Json)
  /-- The first parameter. -/
  | a
  /-- The second parameter. -/
  | b
  /-- The exception of the enclosing handler. -/
  | caught
  | self
  | get (e : Expr) (key : String)
  | kindOf (e : Expr)
  /-- An entry of the state. -/
  | state (key : String)
  /-- Calls a property of `self` on it. -/
  | method (key : String) (args : List Expr)
  | object (members : List (String × Expr))
  /-- An object with the given prototype and members. -/
  | create (parent : Expr) (members : List (String × Expr))
  | array (elements : List Expr)
  /-- The texts of the parts, one after the other. -/
  | concat (parts : List Expr)
  | add (terms : List Expr)
  | stringify (e : Expr)
  | function (body : List Stmt)
  | arrow (body : List Stmt)
  /-- An arrow function without parameters. -/
  | thunk (body : List Stmt)
  /-- An object with one getter. -/
  | getter (key : String) (body : List Stmt)
  | error (kind : ErrorKind) (message : Expr) (extra : List (String × Expr))
  | measure (args : List Expr)
  | fetch (args : List Expr)
  | bigint (n : Int)
  | symbol

inductive Stmt where
  | return (e : Expr)
  | throw (e : Expr)
  | expr (e : Expr)
  /-- Assigns an entry of the state. -/
  | set (key : String) (e : Expr)
  /-- Adds one to an entry of the state; what counts as false counts as zero. -/
  | increment (key : String)
  | selfSet (key : String) (e : Expr)
  | selfIncrement (key : String)
  /-- Runs the body if the two values are strictly equal. -/
  | whenEqual (left right : Expr) (body : List Stmt)
  | try (body handler : List Stmt)

end

instance : Inhabited Expr := ⟨.undefined⟩

instance : Inhabited Stmt := ⟨.expr .undefined⟩

/-- The body of a class. Without a constructor of its own a class has the default one. -/
structure ClassBody where
  parent : Option String
  constructor : Option (List Stmt)
  methods : List (String × List Stmt)
  getters : List (String × List Stmt)
  statics : List (String × List Stmt)
  fields : List (String × Expr)
  deriving Inhabited

inductive BindingKind where
  | var
  | let
  | const
  deriving DecidableEq, Repr

inductive Declaration where
  | function (name : String) (body : List Stmt)
  | binding (kind : BindingKind) (name : String) (value : Expr)
  | class (name : String) (body : ClassBody)
  | statement (s : Stmt)

instance : Inhabited Declaration := ⟨.statement default⟩

abbrev Module := List Declaration

end Volley.Script
