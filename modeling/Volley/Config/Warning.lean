import Volley.Config.Basic

/-!
# Warnings

What a configuration that can be run still makes one think about.
-/

namespace Volley

/-- mirrors config/validation:116-120 (`ValidationLevel`) -/
inductive Severity where
  | info
  | warning
  | error
  deriving DecidableEq, Repr

namespace Severity

def name : Severity → String
  | info => "INFO"
  | warning => "WARNING"
  | error => "ERROR"

def style : Severity → Style
  | info => .ofColor .blue
  | warning => .ofColor .yellow
  | error => .boldColor .red

def all : List Severity := [info, warning, error]

end Severity

/-- mirrors config/validation:135-138 (`ValidationWarning`) -/
structure Warning where
  severity : Severity
  message : String
  deriving DecidableEq, Repr

/-- The line of a warning. -/
def Warning.render (w : Warning) (color escapes : Bool) : String :=
  let tag := "[" ++ w.severity.name ++ "]"
  (if color then w.severity.style.paint escapes tag else tag) ++ " " ++ w.message

namespace Config

/-- The options that a gun cannot do without, in the order they are asked for.
mirrors config/validation:10-18 (`required_options`) -/
def requiredOptions : GunKind → List String
  | .log => ["param"]
  | .http => ["base_address"]
  | .sql => ["db"]
  | .custom | .scenario => ["module_path", "module_name"]
  | .ultimate => ["module_path", "module_name", "class_name"]

/-- An error for a required option that is missing. -/
def missingOption (kind : GunKind) (key : String) : Warning :=
  ⟨.error, kind.name ++ " gun requires option '" ++ key ++ "' (use -o " ++ key ++ "=...)"⟩

def when (holds : Bool) (severity : Severity) (message : String) : List Warning :=
  if holds then [⟨severity, message⟩] else []

/-- Warnings on the options of the gun.
mirrors config/validation:35-74 (`ConfigValidator::validate_gun_options`) -/
def optionWarnings (c : Config) (kind : GunKind) : List Warning :=
  ((requiredOptions kind).filter fun k => !c.gunOptions.contains k).map (missingOption kind) ++
    when (kind = .http && (c.gunOptions.getD "base_address" "").startsWith "https://") .info
      "TLS certificates are not verified by the http gun" ++
    when (kind = .custom) .warning "custom gun is deprecated, prefer the ultimate gun" ++
    when (!kind.isDynamic && c.gunOptions.contains "module_path") .info
      ("module_path is ignored by the " ++ kind.name ++ " gun")

/-- A capacity beyond which the queue may take a lot of memory. -/
def largeCapacity : Nat := 1000000

/-- Warnings on the size of the run, on a machine with so many processors.
mirrors config/validation:77-111 (`ConfigValidator::validate_performance_settings`) -/
def sizeWarnings (c : Config) (cpus : Nat) : List Warning :=
  let workers := showNat c.workers
  let capacity := showNat c.resultsCapacity
  let small := decide (c.resultsCapacity < c.workers)
  when (decide (max cpus 1 * 64 < c.workers)) .warning
      (workers ++ " workers on " ++ showNat (max cpus 1) ++
        " CPUs may saturate the shooter itself") ++
    when small .warning
      ("Result capacity " ++ capacity ++ " is below the worker count " ++ workers ++
        "; results will likely be dropped") ++
    when (!small && decide (largeCapacity < c.resultsCapacity)) .info
      ("Result capacity " ++ capacity ++ " may use a lot of memory") ++
    when c.loops.isNone .info "Ammo loops until interrupted (Ctrl+C to stop)"

/-- The warnings on a configuration that can be run.
mirrors config/validation:25-32 (`ConfigValidator::validate_comprehensive`) -/
def warnings (c : Config) (cpus : Nat) : Except Fault (List Warning) := do
  c.validate
  let kind ← c.gunKind
  return c.optionWarnings kind ++ c.sizeWarnings cpus

end Config

end Volley
