/-!
# The package

The names of the package and of its command.
-/

namespace Volley.About

def name : String := "bfg-shooter"

def version : String := "0.1.0"

def description : String :=
  "Shooting and telemetry core for load testing: pluggable guns, measurement scopes, " ++
    "drop-on-full result channel and shared-file cursors"

/-- The command that fires a run. -/
def command : String := "bfg"

/-- What the command answers when it is asked for its version. -/
def versionLine : String := command ++ " " ++ version

end Volley.About
