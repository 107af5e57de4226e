import Volley.Extension.Loader
import Volley.Json.Parser
import Volley.Script.Load
import Volley.Script.Tree

/-!
# The engine of syntax trees

An engine whose modules are written as syntax trees; it does not take any other text. A name is
looked up by the expression `typeof name === 'undefined' ? undefined : name`, which the language
reads before it runs it: at a reserved word it is no expression.
-/

namespace Volley.Extension

open Script

/-- The caller for computations from outside. -/
def call : Caller := invoke maxDepth

/-- What comes of a computation, and the machine after it; nothing, if it crashes. -/
def settled {α : Type} (x : Run α) (m : Machine) : Option α × Machine :=
  match x.run m with
  | (.ok a, m) => (some a, m)
  | (.error _, m) => (none, m)

/-- Runs a computation, with a refusal for what interrupts it, which is told as a thrown value is
shown. -/
def guardedShown {α ε : Type} (refusal : String → ε) (x : Run α) : Run (Except ε α) :=
  tryCatch (do return .ok (← x)) fun
    | .thrown v => do return .error (refusal ((← get).show v))
    | .tooDeep => return .error (refusal tooDeepText)
    | .crash => throw .crash

/-! ## Names -/

/-- The identifiers that no expression can begin with, or that want something after them. -/
def reservedWords : List String :=
  ["break", "case", "catch", "class", "const", "continue", "debugger", "default", "delete", "do",
    "else", "enum", "export", "extends", "finally", "for", "function", "if", "import", "in",
    "instanceof", "new", "return", "super", "switch", "throw", "try", "typeof", "var", "void",
    "while", "with"]

/-- Why the expression for a reserved word is none: it compares the type first, and the word, or the
sign of the comparison after it, is not what has to come there. -/
def reservedFault (word : String) : String :=
  let compared := word.length + 9
  let place (column : Nat) : String := " at line 1, col " ++ toString column
  let unexpected (token message : String) (column : Nat) : String :=
    "unexpected token '" ++ token ++ "', " ++ message ++ place column
  let wanted (token part : String) : String :=
    "expected token '" ++ token ++ "', got '===' in " ++ part ++ place compared
  match word with
  | "class" => wanted "\x7b" "class tail"
  | "function" => wanted "(" "function expression"
  | "import" => wanted "." "import.meta"
  | "super" => unexpected "===" "expected super property" compared
  | "delete" | "new" | "typeof" | "void" => unexpected "===" "primary expression" compared
  | _ => unexpected word "primary expression" 8

/-- The values of words that stand for themselves, whatever is declared. -/
def wordValue? : String → Option Value
  | "this" => some (.object Intrinsic.globalObject)
  | "null" => some .null
  | "true" => some (.bool true)
  | "false" => some (.bool false)
  | _ => none

/-- Whether a name is declared at the top. -/
def isDeclared (m : Machine) (name : String) : Bool :=
  (m.lexical.lookup name).isSome || (m.find? Intrinsic.globalObject name).isSome

/-- The value of the expression for a name. A name that is declared is read for its type first; if
it has one it is read once more. -/
def nameValue (name : String) : Run Value := do
  match wordValue? name with
  | some v => return v
  | none =>
    if isDeclared (← get) name then
      match ← globalValue call name with
      | .undefined => return .undefined
      | _ => globalValue call name
    else return .undefined

/-- The object that a name stands for. -/
def nameObject (name : String) : Run (Option Ref) := do
  match ← nameValue name with
  | .object r => return some r
  | _ => return none

/-! ## The engine -/

/-- Runs a module. -/
def runTree (module : Module) : Asked Machine Unit :=
  settled (guardedShown id (runModule call module))

/-- The error of a text that is not in the language. -/
def syntaxError {α : Type} (text : String) : Asked Machine α := fun m =>
  (some (.error ("SyntaxError: " ++ text)), m)

/-- Runs the module that a text is the tree of. -/
def runText (text : List Char) : Asked Machine Unit :=
  match Json.parse (.ofList text) with
  | .ok tree => runTree (.ofTree tree)
  | .error e => syntaxError e.message

/-- Evaluates the expression for a name. -/
def resolveName (name : String) : Asked Machine (Option Ref) :=
  if reservedWords.contains name then syntaxError (reservedFault name)
  else settled (guardedShown id (nameObject name))

def treeEngine : Backend Machine Ref where
  start _ := .ok ()
  register m := (some (.ok ()), m)
  run := runText
  resolve := resolveName
  isCallable m r := (m.object r).isCallable
  isConstructor m r := (m.object r).isConstructor

end Volley.Extension
