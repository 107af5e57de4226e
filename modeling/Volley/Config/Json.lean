import Volley.Config.Basic

/-!
# Configurations in JSON

An object with a member for each setting, or a list of the settings in order. A setting that is not
there has the default of its own, or is empty or off where it has none. No setting may
be given twice, and unknown ones do not matter.
-/

namespace Volley.Config

/-- The names of the settings, in order. -/
def keys : List String :=
  ["gun_type", "ammo_file", "ammo_format", "loops", "workers", "results_capacity", "phout_file",
    "gun_options", "log_level", "log_format", "enable_color", "verbose", "debug"]

def optionalJson {α : Type} (f : α → Json) : Option α → Json
  | some a => f a
  | none => .null

/-- The settings as members, in order. -/
def members (c : Config) : List (String × Json) :=
  [("gun_type", .string c.gunType), ("ammo_file", .string c.ammoFile),
    ("ammo_format", .string c.ammoFormat), ("loops", optionalJson .ofNat c.loops),
    ("workers", .ofNat c.workers), ("results_capacity", .ofNat c.resultsCapacity),
    ("phout_file", .string c.phoutFile),
    ("gun_options", .object (c.gunOptions.entries.map fun (k, v) => (k, .string v))),
    ("log_level", optionalJson .string c.logLevel),
    ("log_format", optionalJson .string c.logFormat), ("enable_color", .bool c.enableColor),
    ("verbose", .bool c.verbose), ("debug", .bool c.debug)]

def toJson (c : Config) : Json := .object c.members

/-- What stands under a key. -/
inductive Setting where
  | absent
  | given (value : Json)
  | repeated

/-- The setting with a key among members. -/
def settingIn (members : List (String × Json)) (key : String) : Setting :=
  match members.filter (·.1 == key) with
  | [] => .absent
  | [(_, v)] => .given v
  | _ => .repeated

/-- Reads a setting; one that is absent has a default. -/
def Setting.read {α : Type} (s : Setting) (fallback : α) (reader : Json → Option α) : Option α :=
  match s with
  | .absent => some fallback
  | .given v => reader v
  | .repeated => none

def bool? : Json → Option Bool
  | .bool b => some b
  | _ => none

/-- Null, or what a reader takes. -/
def optional? {α : Type} (reader : Json → Option α) : Json → Option (Option α)
  | .null => some none
  | j => (reader j).map some

def option? (member : String × Json) : Option (String × String) :=
  member.2.asString?.map fun v => (member.1, v)

def options? : Json → Option Options
  | .object members => (members.mapM option?).map .ofList
  | _ => none

/-- Reads a configuration from its settings, on a machine with so many processors.
mirrors models/config:15-67 (`Config`) -/
def ofSettings? (cpus : Nat) (setting : String → Setting) : Option Config := do
  let gunType ← (setting "gun_type").read defaultGunType Json.asString?
  let ammoFile ← (setting "ammo_file").read defaultAmmoFile Json.asString?
  let ammoFormat ← (setting "ammo_format").read defaultAmmoFormat Json.asString?
  let loops ← (setting "loops").read defaultLoops (optional? Json.asNat?)
  let workers ← (setting "workers").read (defaultWorkers cpus) Json.asNat?
  let resultsCapacity ← (setting "results_capacity").read defaultCapacity Json.asNat?
  let phoutFile ← (setting "phout_file").read defaultPhoutFile Json.asString?
  let gunOptions ← (setting "gun_options").read .empty options?
  let logLevel ← (setting "log_level").read none (optional? Json.asString?)
  let logFormat ← (setting "log_format").read none (optional? Json.asString?)
  let enableColor ← (setting "enable_color").read defaultColor bool?
  let verbose ← (setting "verbose").read false bool?
  let debug ← (setting "debug").read false bool?
  return { gunType, ammoFile, ammoFormat, loops, workers, resultsCapacity, phoutFile, gunOptions,
           logLevel, logFormat, enableColor, verbose, debug }

/-- Reads a configuration. -/
def ofJson? (cpus : Nat) : Json → Option Config
  | .object members => ofSettings? cpus (settingIn members)
  | .array values =>
    if values.length ≤ keys.length then ofSettings? cpus (settingIn (keys.zip values)) else none
  | _ => none

/-- Reads a configuration from text. -/
def ofText? (cpus : Nat) (text : String) : Option Config :=
  (Json.parse text).toOption.bind (ofJson? cpus)

end Volley.Config
