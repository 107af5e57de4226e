import Volley.Script.Syntax

/-!
# Syntax trees of script modules

A module is written as a list of declarations, and a declaration, a statement or an expression that
is no literal as a list whose head names its form. What is left out at the end of a list is
undefined, empty, or nothing; an unknown form is undefined.
-/

namespace Volley.Script

/-- The text of a name in a tree. -/
def treeName : Json → String
  | .string s => s
  | _ => ""

/-- The text at the head of a list of arguments. -/
def firstName : List Json → String
  | j :: _ => treeName j
  | [] => ""

def ErrorKind.ofName (name : String) : ErrorKind := (all.find? (·.name == name)).getD .error

mutual

def exprOfTree : Json → Expr
  | .array (.string form :: args) =>
    match form with
    | "undef" => .undefined
    | "nan" => .nan
    | "inf" => .infinity
    | "a" => .a
    | "b" => .b
    | "caught" => .caught
    | "self" => .self
    | "get" =>
      match args with
      | e :: k => .get (exprOfTree e) (firstName k)
      | [] => .undefined
    | "len" => .get (firstExpr args) "length"
    | "typeof" => .kindOf (firstExpr args)
    | "state" => .state (firstName args)
    | "this" => .get .self (firstName args)
    | "method" =>
      match args with
      | k :: es => .method (treeName k) (exprsOfTrees es)
      | [] => .undefined
    | "obj" => .object (firstMembers args)
    | "create" =>
      match args with
      | e :: ms => .create (exprOfTree e) (firstMembers ms)
      | [] => .undefined
    | "arr" => .array (exprsOfTrees args)
    | "cat" => .concat (exprsOfTrees args)
    | "add" => .add (exprsOfTrees args)
    | "stringify" => .stringify (firstExpr args)
    | "fn" => .function (firstBody args)
    | "arrow" => .arrow (firstBody args)
    | "thunk" => .thunk (firstBody args)
    | "getter" =>
      match args with
      | k :: body => .getter (treeName k) (firstBody body)
      | [] => .undefined
    | "error" =>
      match args with
      | k :: e :: ms => .error (.ofName (treeName k)) (exprOfTree e) (firstMembers ms)
      | _ => .undefined
    | "measure" => .measure (exprsOfTrees args)
    | "fetch" => .fetch (exprsOfTrees args)
    | "bigint" => .bigint ((firstName args).toInt?.getD 0)
    | "symbol" => .symbol
    | _ => .undefined
  | literal => .literal literal

def exprsOfTrees : List Json → List Expr
  | [] => []
  | e :: r => exprOfTree e :: exprsOfTrees r

def firstExpr : List Json → Expr
  | e :: _ => exprOfTree e
  | [] => .undefined

def membersOfTrees : List (String × Json) → List (String × Expr)
  | [] => []
  | (k, e) :: r => (k, exprOfTree e) :: membersOfTrees r

def membersOfTree : Json → List (String × Expr)
  | .object ms => membersOfTrees ms
  | _ => []

def firstMembers : List Json → List (String × Expr)
  | j :: _ => membersOfTree j
  | [] => []

def stmtOfTree : Json → Stmt
  | .array (.string form :: args) =>
    match form with
    | "return" => .return (firstExpr args)
    | "throw" => .throw (firstExpr args)
    | "set" =>
      match args with
      | k :: e => .set (treeName k) (firstExpr e)
      | [] => .expr .undefined
    | "inc" => .increment (firstName args)
    | "this_set" =>
      match args with
      | k :: e => .selfSet (treeName k) (firstExpr e)
      | [] => .expr .undefined
    | "this_inc" => .selfIncrement (firstName args)
    | "if" =>
      match args with
      | e :: f :: body => .whenEqual (exprOfTree e) (exprOfTree f) (firstBody body)
      | _ => .expr .undefined
    | "try" =>
      match args with
      | body :: handler => .try (bodyOfTree body) (firstBody handler)
      | [] => .expr .undefined
    | _ => .expr (firstExpr args)
  | _ => .expr .undefined

def stmtsOfTrees : List Json → List Stmt
  | [] => []
  | s :: r => stmtOfTree s :: stmtsOfTrees r

def bodyOfTree : Json → List Stmt
  | .array ss => stmtsOfTrees ss
  | _ => []

def firstBody : List Json → List Stmt
  | j :: _ => bodyOfTree j
  | [] => []

end

def membersAt (j : Json) (key : String) : List (String × Json) :=
  match j.get? key with
  | some (.object ms) => ms
  | _ => []

def bodiesAt (j : Json) (key : String) : List (String × List Stmt) :=
  (membersAt j key).map fun (k, body) => (k, bodyOfTree body)

def ClassBody.ofTree (j : Json) : ClassBody where
  parent := (j.get? "extends").bind Json.asString?
  constructor :=
    match j.get? "ctor" with
    | some (.array ss) => some (stmtsOfTrees ss)
    | _ => none
  methods := bodiesAt j "methods"
  getters := bodiesAt j "getters"
  statics := bodiesAt j "statics"
  fields := membersOfTrees (membersAt j "fields")

def Declaration.ofTree : Json → Declaration
  | .array [.string "fn", .string name, body] => .function name (bodyOfTree body)
  | .array [.string "var", .string name, e] => .binding .var name (exprOfTree e)
  | .array [.string "let", .string name, e] => .binding .let name (exprOfTree e)
  | .array [.string "const", .string name, e] => .binding .const name (exprOfTree e)
  | .array [.string "class", .string name, c] => .class name (.ofTree c)
  | .array [.string "stmt", s] => .statement (stmtOfTree s)
  | _ => default

def Module.ofTree : Json → Module
  | .array ds => ds.map .ofTree
  | _ => []

end Volley.Script
