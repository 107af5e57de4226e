import Volley.Ammo.Missile
import Volley.Gun.Kind
import Volley.Options
import Volley.Url.Address

/-!
# Configurations

What a run is made of: the gun and its options, the ammunition, how many workers fire it how many
times, and where the measurements go. A configuration may be wrong; `validate` tells the first thing
that is.
-/

namespace Volley

/-- mirrors models/config:15-67 (`Config`) -/
structure Config where
  gunType : String
  ammoFile : String
  ammoFormat : String
  /-- How often the ammunition is gone through; without a number until the run is stopped. -/
  loops : Option Nat
  workers : Nat
  resultsCapacity : Nat
  phoutFile : String
  gunOptions : Options
  logLevel : Option String
  logFormat : Option String
  enableColor : Bool
  verbose : Bool
  debug : Bool
  deriving DecidableEq, Repr

namespace Config

/-! ## Defaults -/

def defaultGunType : String := "log"

def defaultAmmoFile : String := "ammo.txt"

def defaultAmmoFormat : String := AmmoFormat.line.name

def defaultLoops : Option Nat := some 1

/-- One worker for each processor. -/
def defaultWorkers (cpus : Nat) : Nat := max cpus 1

def defaultCapacity : Nat := 10000

def defaultPhoutFile : String := "phout.txt"

def defaultColor : Bool := true

/-- The configuration before anything is set, on a machine with so many processors.
mirrors models/config:70-86 (`Config::default`) -/
def initial (cpus : Nat) : Config where
  gunType := defaultGunType
  ammoFile := defaultAmmoFile
  ammoFormat := defaultAmmoFormat
  loops := defaultLoops
  workers := defaultWorkers cpus
  resultsCapacity := defaultCapacity
  phoutFile := defaultPhoutFile
  gunOptions := .empty
  logLevel := none
  logFormat := none
  enableColor := defaultColor
  verbose := false
  debug := false

/-! ## Checks -/

def gunKind (c : Config) : Except Fault GunKind := GunKind.parse c.gunType

def format (c : Config) : Except Fault AmmoFormat := AmmoFormat.parse c.ammoFormat

def maxWorkers : Nat := 4096

/-- Refuses with a message where a condition does not hold. -/
def demand (holds : Bool) (message : String) : Except Fault Unit :=
  if holds then .ok () else .error (.config message)

/-- Refuses a base address that is no URL. -/
def checkBase (c : Config) : GunKind → Except Fault Unit
  | .http =>
    match c.gunOptions.get? "base_address" with
    | none => .ok ()
    | some base =>
      match Url.Address.parse base with
      | .ok _ => .ok ()
      | .error e => .error (.config ("Invalid base_address '" ++ base ++ "': " ++ e.message))
  | _ => .ok ()

/-- Refuses a configuration that no run can start from.
mirrors models/config:111-148 (`Config::validate`) -/
def validate (c : Config) : Except Fault Unit := do
  let kind ← c.gunKind
  let _ ← c.format
  demand (c.ammoFile != "") "Ammo file cannot be empty"
  demand (c.phoutFile != "") "Phout file cannot be empty"
  demand (c.workers != 0) "Worker count must be greater than 0"
  demand (c.workers ≤ maxWorkers) "Worker count cannot exceed 4096"
  demand (c.resultsCapacity != 0) "Result channel capacity must be greater than 0"
  demand (c.loops != some 0) "Loop count must be greater than 0"
  c.checkBase kind

/-- A loop count, where zero and the names of infinity mean until the run is stopped.
mirrors models/config:209-214 (`parse_loops`) -/
def parseLoops (text : String) : Except Numeral.IntegerFault (Option Nat) :=
  let s := Text.lower (Text.trim text.toList)
  if s == ['0'] || s == "inf".toList || s == "infinite".toList then .ok none
  else (Numeral.parseNat Numeral.maxU64 s).map some

def showBool (b : Bool) : String := if b then "true" else "false"

def showNat (n : Nat) : String := .ofList (Numeral.decimal n)

/-- A loop count as it is shown. -/
def showLoops : Option Nat → String
  | some n => showNat n
  | none => "until interrupted"

/-- The configuration, a line for each setting.
mirrors config/parser:94-114 (`display_config_summary`) -/
def summary (c : Config) : String :=
  "\n".intercalate
    (["Gun: " ++ c.gunType, "Ammo: " ++ c.ammoFile ++ " (" ++ c.ammoFormat ++ ")",
      "Loops: " ++ showLoops c.loops, "Workers: " ++ showNat c.workers,
      "Result Capacity: " ++ showNat c.resultsCapacity, "Phout: " ++ c.phoutFile] ++
    (c.gunOptions.entries.map fun (k, v) => "Option " ++ k ++ ": " ++ v) ++
    ["Color Output: " ++ showBool c.enableColor, "Verbose: " ++ showBool c.verbose,
      "Debug: " ++ showBool c.debug])

end Config

end Volley
