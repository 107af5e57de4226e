import Volley.Style
import Volley.Json.Parser
import Volley.Numeral.Real
import Volley.Numeral.Integer
import Volley.Url.Host

/-!
# Faults

Everything that can go wrong in a run is a fault: a kind and a message. The kind decides the words
in front of the message, the category in reports, the exit code, the color, and the advice.
-/

namespace Volley

namespace Fault

/-- mirrors error:7-51 (`AppError`) -/
inductive Kind where
  | config
  | gunConfig
  | extensionLoad
  | extension
  | transport
  | database
  | lock
  | validation
  | io
  | parse
  | internal
  deriving DecidableEq, Repr

namespace Kind

/-- The words in front of the message. -/
def title : Kind → String
  | config => "Configuration error: "
  | gunConfig => "Gun configuration error: "
  | extensionLoad => "Extension load error: "
  | extension => "Extension error: "
  | transport => "Transport error: "
  | database => "Database error: "
  | lock => "Lock contention: "
  | validation => "Validation error: "
  | Kind.io => "I/O error: "
  | parse => "Parsing error: "
  | internal => "Internal error: "

/-- mirrors error:110-124 (`AppError::category`) -/
def category : Kind → String
  | config => "CONFIG"
  | gunConfig => "GUN_CONFIG"
  | extensionLoad => "EXTENSION_LOAD"
  | extension => "EXTENSION"
  | transport => "TRANSPORT"
  | database => "DATABASE"
  | lock => "LOCK"
  | validation => "VALIDATION"
  | Kind.io => "IO"
  | parse => "PARSE"
  | internal => "INTERNAL"

/-- Whether a run goes on after a shot ends with such a fault.
mirrors error:127-133 (`AppError::is_recoverable`) -/
def isRecoverable : Kind → Bool
  | transport | database | extension => true
  | _ => false

/-- mirrors error:136-145 (`AppError::exit_code`) -/
def exitCode : Kind → Nat
  | config | gunConfig | validation | parse => 1
  | extensionLoad | extension => 2
  | transport | database => 3
  | lock => 4
  | Kind.io => 5
  | internal => 99

def color : Kind → Color
  | config | gunConfig | validation | parse => .red
  | extensionLoad | extension => .magenta
  | transport | database => .yellow
  | lock | Kind.io => .cyan
  | internal => .brightRed

/-- Advice for faults that a user can mend.
mirrors error:266-279 (`ErrorReporter::suggestion`) -/
def suggestion : Kind → Option String
  | config | gunConfig =>
    some "Check the gun options (-o key=value or BFG_OPT_<KEY>) and your .env file."
  | extensionLoad =>
    some ("Check module_path, module_name and class_name, " ++
      "and that the script evaluates on its own.")
  | lock =>
    some ("Another reader is holding the results file; " ++
      "reduce the number of concurrent readers.")
  | _ => none

def all : List Kind :=
  [config, gunConfig, extensionLoad, extension, transport, database, lock, validation, Kind.io,
    parse, internal]

end Kind

end Fault

/-- A fault of a run. -/
structure Fault where
  kind : Fault.Kind
  message : String
  deriving DecidableEq, Repr

namespace Fault

def config (message : String) : Fault := ⟨.config, message⟩

def gunConfig (message : String) : Fault := ⟨.gunConfig, message⟩

def extensionLoad (message : String) : Fault := ⟨.extensionLoad, message⟩

def extension (message : String) : Fault := ⟨.extension, message⟩

def transport (message : String) : Fault := ⟨.transport, message⟩

def lock (message : String) : Fault := ⟨.lock, message⟩

def validation (message : String) : Fault := ⟨.validation, message⟩

def file (message : String) : Fault := ⟨.io, message⟩

def parse (message : String) : Fault := ⟨.parse, message⟩

def internal (message : String) : Fault := ⟨.internal, message⟩

/-- The message after the title of its kind. -/
def display (f : Fault) : String := f.kind.title ++ f.message

/-- The line on a console: the category in brackets, then the text.
mirrors error:148-174 (`AppError::format_for_console`) -/
def console (f : Fault) (color escapes : Bool) : String :=
  if color then
    "[" ++ (Style.boldColor f.kind.color).paint escapes f.kind.category ++ "] " ++
      (Style.ofColor f.kind.color).paint escapes f.display
  else "[" ++ f.kind.category ++ "] " ++ f.display

/-- Why a text is no truth value. -/
def notBoolean : String := "provided string was not \x60true\x60 or \x60false\x60"

def ofInteger (e : Numeral.IntegerFault) : Fault := parse ("Integer parse error: " ++ e.message)

def ofReal (e : Numeral.RealFault) : Fault := parse ("Float parse error: " ++ e.message)

def ofBoolean : Fault := parse ("Boolean parse error: " ++ notBoolean)

def ofJson (e : Json.Fault) : Fault := parse ("JSON parse error: " ++ e.message)

def ofAddress (e : Url.AddressFault) : Fault := parse ("URL parse error: " ++ e.message)

def insertName (name : String) : List String → List String
  | [] => [name]
  | n :: r =>
    if name < n then name :: n :: r else if name = n then n :: r else n :: insertName name r

/-- The categories of the faults in order, each once. -/
def categories (fs : List Fault) : List String :=
  fs.foldl (fun acc f => insertName f.kind.category acc) []

/-- A count per category, with each fault if asked for.
mirrors error:282-305 (`ErrorReporter::format_error_summary`) -/
def summary (fs : List Fault) (verbose : Bool) : String :=
  if fs.isEmpty then "No errors"
  else
    let group (category : String) : String :=
      let members := fs.filter (·.kind.category == category)
      "\n  " ++ category ++ ": " ++ toString members.length ++ " error(s)" ++
        (if verbose then String.join (members.map fun f => "\n    - " ++ f.display) else "")
    "Found " ++ toString fs.length ++ " error(s):" ++ String.join ((categories fs).map group)

end Fault

/-- Two parts of which neither fails. -/
theorem ok_of_bind {ε α β : Type} {x : Except ε α} {f : α → Except ε β} {b : β}
    (h : x >>= f = .ok b) : ∃ a, x = .ok a ∧ f a = .ok b := by
  cases x with
  | error e => cases h
  | ok a => exact ⟨a, rfl, h⟩

/-- What fails in two parts fails in the first, or in the second after the first. -/
theorem bind_eq_error_iff {ε α β : Type} {x : Except ε α} {f : α → Except ε β} {e : ε} :
    x >>= f = .error e ↔ x = .error e ∨ ∃ a, x = .ok a ∧ f a = .error e := by
  cases x with
  | error e' => simp [bind, Except.bind]
  | ok a => simp [bind, Except.bind]

theorem ok_of_toOption {ε α : Type} {x : Except ε α} {a : α} (h : x.toOption = some a) :
    x = .ok a := by
  cases x with
  | error e => cases h
  | ok b => exact congrArg Except.ok (Option.some.inj h)

/-- What comes to no value is a fault. -/
theorem error_of_toOption {ε α : Type} {x : Except ε α} (h : x.toOption = none) :
    ∃ e, x = .error e := by
  cases x with
  | error e => exact ⟨e, rfl⟩
  | ok a => cases h

end Volley
