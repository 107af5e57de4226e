import Volley.About
import Volley.Config.CommandLine
import Volley.Style

/-!
# Help on the command line

What each option does, and what is told about arguments that are not taken.
-/

namespace Volley.CommandLine

namespace Refusal

/-- What is told about arguments that are not taken. -/
def message : Refusal → String
  | value k text reason => "invalid value '" ++ text ++ "' for '" ++ k.display ++ "': " ++ reason
  | unknown argument => "unexpected argument '" ++ argument ++ "' found"
  | missing k => "a value is required for '" ++ k.display ++ "' but none was supplied"
  | surplus argument text => "unexpected value '" ++ text ++ "' for '" ++ argument ++ "' found"
  | repeatedKey k => "the argument '" ++ k.display ++ "' cannot be used multiple times"
  | repeatedFlag f => "the argument '" ++ f.display ++ "' cannot be used multiple times"
  | help => "help"
  | version => "version"

end Refusal

def Key.purpose : Key → String
  | .gun => "Gun to fire: log, http, sql, custom, scenario, ultimate"
  | .ammo => "Ammunition file"
  | .ammoFormat => "Ammunition layout: line, caseline"
  | .loops => "Passes over the ammunition (0 or inf: until interrupted)"
  | .workers => "Concurrent workers"
  | .capacity => "Capacity of the result channel"
  | .phout => "File for the results"
  | .option => "Option of the gun, may be repeated"
  | .envFile => "File with environment variables"
  | .logLevel => "Log level: trace, debug, info, warn, error"
  | .logFormat => "Log format: console, json, compact"

def Flag.purpose : Flag → String
  | .color => "Color the output"
  | .noColor => "Leave the output plain"
  | .verbose => "Tell more"
  | .debug => "Tell everything"

/-- A line for each option. -/
def help : String :=
  let row (shown purpose : String) : String := "  " ++ padRight 26 shown ++ " " ++ purpose ++ "\n"
  "Usage: " ++ About.command ++ " [OPTIONS]\n\nOptions:\n" ++
    String.join (Key.all.map fun k => row k.display k.purpose) ++
    String.join (Flag.all.map fun f => row f.display f.purpose) ++
    row "--help" "Print this help" ++ row "--version" "Print the version"

end Volley.CommandLine
