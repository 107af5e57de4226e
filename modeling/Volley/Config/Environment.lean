import Volley.Config.Basic

/-!
# The process environment

An ordered list of variables. Each setting has a variable of its own; the variables that begin with
`BFG_OPT_` are options of the gun, under the rest of their names in lower case.
-/

namespace Volley

/-- The variables of a process, in order. -/
structure Environment where
  entries : List (String × String)
  deriving DecidableEq, Repr, Inhabited

namespace Environment

def empty : Environment := ⟨[]⟩

/-- The variables of a block of texts `NAME=value`, each ended by a zero byte. Bytes that are no text
are replaced, where the program stops as soon as it goes through such a variable. -/
def ofBlock (bytes : List UInt8) : Environment :=
  ⟨(Text.fields '\x00' (Text.Utf8.decodeLossy bytes)).filterMap fun entry =>
    (Text.cut? '=' entry).map fun (name, value) => (.ofList name, .ofList value)⟩

/-- The value of the first variable with a name. -/
def get? (env : Environment) (name : String) : Option String :=
  (env.entries.find? (·.1 == name)).map (·.2)

/-- Sets a variable that is not set, behind all others. -/
def setDefault (env : Environment) (name value : String) : Environment :=
  if (env.get? name).isSome then env else ⟨env.entries ++ [(name, value)]⟩

end Environment

namespace Config

def optionPrefix : String := "BFG_OPT_"

/-- The option that a variable stands for. -/
def optionKey? (name : String) : Option String :=
  match Text.dropPrefix? optionPrefix.toList name.toList with
  | some (c :: r) => some (.ofList (Text.lower (c :: r)))
  | _ => none

/-- The refusal of a variable's value. -/
def invalidVariable (name value reason : String) : Fault :=
  .config ("Invalid " ++ name ++ " value '" ++ value ++ "': " ++ reason)

/-- Puts a variable's value in, where the variable is set. -/
def mergeVariable (env : Environment) (name : String)
    (assign : String → Config → Except Fault Config) (c : Config) : Except Fault Config :=
  match env.get? name with
  | some v => assign v c
  | none => .ok c

def assignLoops (v : String) (c : Config) : Except Fault Config :=
  match parseLoops v with
  | .ok loops => .ok { c with loops }
  | .error e => .error (invalidVariable "BFG_LOOPS" v e.message)

def assignWorkers (v : String) (c : Config) : Except Fault Config :=
  match Numeral.parseNat Numeral.maxU64 (Text.trim v.toList) with
  | .ok workers => .ok { c with workers }
  | .error e => .error (invalidVariable "BFG_WORKERS" v e.message)

def assignCapacity (v : String) (c : Config) : Except Fault Config :=
  match Numeral.parseNat Numeral.maxU64 (Text.trim v.toList) with
  | .ok resultsCapacity => .ok { c with resultsCapacity }
  | .error e => .error (invalidVariable "BFG_RESULTS_CAPACITY" v e.message)

def assignColor (v : String) (c : Config) : Except Fault Config :=
  match Reading.bool (Text.trimmed v) with
  | .ok enableColor => .ok { c with enableColor }
  | .error e => .error (invalidVariable "BFG_ENABLE_COLOR" v e)

/-- The variables of the settings, in the order they are looked at. -/
def assignments : List (String × (String → Config → Except Fault Config)) :=
  [("BFG_GUN_TYPE", fun v c => .ok { c with gunType := Text.trimmed v }),
    ("BFG_AMMO_FILE", fun v c => .ok { c with ammoFile := Text.trimmed v }),
    ("BFG_AMMO_FORMAT", fun v c => .ok { c with ammoFormat := Text.trimmed v }),
    ("BFG_LOOPS", assignLoops), ("BFG_WORKERS", assignWorkers),
    ("BFG_RESULTS_CAPACITY", assignCapacity),
    ("BFG_PHOUT_FILE", fun v c => .ok { c with phoutFile := Text.trimmed v }),
    ("BFG_LOG_LEVEL", fun v c => .ok { c with logLevel := some (Text.trimmed v) }),
    ("BFG_LOG_FORMAT", fun v c => .ok { c with logFormat := some (Text.trimmed v) }),
    ("BFG_ENABLE_COLOR", assignColor)]

/-- Puts the variables of settings in, up to the first that is refused. -/
def mergeSettings (env : Environment) : List (String × (String → Config → Except Fault Config)) →
    Config → Except Fault Unit × Config
  | [], c => (.ok (), c)
  | (name, assign) :: r, c =>
    match mergeVariable env name assign c with
    | .ok c => mergeSettings env r c
    | .error e => (.error e, c)

/-- The options that the variables stand for, in order. -/
def optionVariables (env : Environment) : List (String × String) :=
  env.entries.filterMap fun (name, v) => (optionKey? name).map fun k => (k, v)

/-- Puts the option variables in; a later one replaces an earlier one. -/
def mergeOptions (env : Environment) (c : Config) : Config :=
  { c with gunOptions := (optionVariables env).foldl (fun o (k, v) => o.insert k v) c.gunOptions }

/-- Puts the environment in; on a refusal, what came before it.
mirrors models/config:151-205 (`Config::merge_from_env`) -/
def mergeEnvironment (env : Environment) (c : Config) : Except Fault Unit × Config :=
  match mergeSettings env assignments c with
  | (.ok _, c) => (.ok (), mergeOptions env c)
  | refused => refused

end Config

end Volley
