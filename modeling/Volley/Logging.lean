import Volley.Config.Basic

/-!
# Log levels and formats

The names of levels and formats, and the logging that a configuration asks for: an explicit level
wins over the flags.
-/

namespace Volley

/-- mirrors logging:18-29 (`LogLevel`) -/
inductive LogLevel where
  | trace
  | debug
  | info
  | warn
  | error
  deriving DecidableEq, Repr

namespace LogLevel

def name : LogLevel → String
  | trace => "TRACE"
  | debug => "DEBUG"
  | info => "INFO"
  | warn => "WARN"
  | error => "ERROR"

/-- The name in filters. -/
def directive : LogLevel → String
  | trace => "trace"
  | debug => "debug"
  | info => "info"
  | warn => "warn"
  | error => "error"

/-- The name in JSON. -/
def jsonName : LogLevel → String
  | trace => "Trace"
  | debug => "Debug"
  | info => "Info"
  | warn => "Warn"
  | error => "Error"

/-- The place in the order of severity. -/
def rank : LogLevel → Nat
  | trace => 0
  | debug => 1
  | info => 2
  | warn => 3
  | error => 4

def all : List LogLevel := [trace, debug, info, warn, error]

/-- Reads a level; `WARNING` is a name too, and neither case nor blanks around it matter. -/
def parse (text : String) : Except Fault LogLevel :=
  let name := Text.uppered (Text.trimmed text)
  if name == "WARNING" then .ok warn
  else match all.find? (·.name == name) with
    | some l => .ok l
    | none => .error (.parse ("Invalid log level: " ++ text))

end LogLevel

/-- mirrors logging:78-85 (`LogFormat`) -/
inductive LogFormat where
  | console
  | json
  | compact
  deriving DecidableEq, Repr

namespace LogFormat

def name : LogFormat → String
  | console => "Console"
  | json => "Json"
  | compact => "Compact"

/-- Reads a format; neither case nor blanks around it matter. -/
def parse (text : String) : Except Fault LogFormat :=
  match Text.lowered (Text.trimmed text) with
  | "console" | "pretty" | "text" => .ok console
  | "json" => .ok json
  | "compact" => .ok compact
  | _ => .error (.parse ("Invalid log format: " ++ text))

end LogFormat

/-- How events are logged.
mirrors logging:102-108 (`LoggingConfig`) -/
structure Logging where
  level : LogLevel
  format : LogFormat
  color : Bool
  /-- Events tell where they come from. -/
  location : Bool
  deriving DecidableEq, Repr

namespace Logging

def standard : Logging := ⟨.warn, .console, true, false⟩

/-- The level that a configuration asks for. -/
def levelOf (c : Config) : Except Fault LogLevel :=
  match c.logLevel with
  | some text => LogLevel.parse text
  | none => .ok (if c.debug then .debug else if c.verbose then .info else .warn)

/-- The format that a configuration asks for. -/
def formatOf (c : Config) : Except Fault LogFormat :=
  match c.logFormat with
  | some text => LogFormat.parse text
  | none => .ok .console

/-- The logging that a configuration asks for.
mirrors logging:126-144 (`LoggingConfig::from_config`) -/
def ofConfig (c : Config) : Except Fault Logging :=
  return ⟨← levelOf c, ← formatOf c, c.enableColor, c.debug⟩

end Logging

end Volley
