import Volley.Config.Environment

/-!
# The command line

Arguments are read from the left. An option takes the text behind its `=` (or, after a short name,
whatever follows), else the next argument unless that looks like an option itself. A value is read
when the next option comes, or at the end. No option but `-o` may be given twice, and there are no
arguments besides options.
-/

namespace Volley

/-- What the command line says.
mirrors cli:10-70 (`Cli`) -/
structure CommandLine where
  gun : Option String
  ammo : Option String
  ammoFormat : Option String
  loops : Option (Option Nat)
  workers : Option Nat
  capacity : Option Nat
  phout : Option String
  options : List (String × String)
  envFile : Option String
  logLevel : Option String
  logFormat : Option String
  color : Bool
  noColor : Bool
  verbose : Bool
  debug : Bool
  deriving DecidableEq, Repr, Inhabited

namespace CommandLine

def empty : CommandLine :=
  ⟨none, none, none, none, none, none, none, [], none, none, none, false, false, false, false⟩

/-- The options that take a value. -/
inductive Key where
  | gun
  | ammo
  | ammoFormat
  | loops
  | workers
  | capacity
  | phout
  | option
  | envFile
  | logLevel
  | logFormat
  deriving DecidableEq, Repr

inductive Flag where
  | color
  | noColor
  | verbose
  | debug
  deriving DecidableEq, Repr

/-- What the name of an option stands for. -/
inductive Name where
  | key (k : Key)
  | flag (f : Flag)
  | help
  | version
  deriving DecidableEq, Repr

namespace Key

def long : Key → String
  | gun => "gun"
  | ammo => "ammo"
  | ammoFormat => "ammo-format"
  | loops => "loops"
  | workers => "workers"
  | capacity => "capacity"
  | phout => "phout"
  | option => "option"
  | envFile => "env-file"
  | logLevel => "log-level"
  | logFormat => "log-format"

/-- What the value is called. -/
def valueName : Key → String
  | gun => "GUN"
  | ammo => "FILE"
  | ammoFormat => "FORMAT"
  | loops => "LOOPS"
  | workers => "WORKERS"
  | capacity => "CAPACITY"
  | phout => "FILE"
  | option => "KEY=VALUE"
  | envFile => "FILE"
  | logLevel => "LOG_LEVEL"
  | logFormat => "LOG_FORMAT"

/-- The option as it is shown. -/
def display (k : Key) : String := "--" ++ k.long ++ " <" ++ k.valueName ++ ">"

def all : List Key :=
  [gun, ammo, ammoFormat, loops, workers, capacity, phout, option, envFile, logLevel, logFormat]

end Key

namespace Flag

def long : Flag → String
  | color => "color"
  | noColor => "no-color"
  | verbose => "verbose"
  | debug => "debug"

def display (f : Flag) : String := "--" ++ f.long

def all : List Flag := [color, noColor, verbose, debug]

end Flag

namespace Name

def long : Name → String
  | key k => k.long
  | flag f => f.long
  | help => "help"
  | version => "version"

def all : List Name := Key.all.map key ++ Flag.all.map flag ++ [help, version]

def ofLong? (name : String) : Option Name := all.find? (·.long == name)

def ofShort? : Char → Option Name
  | 'g' => some (key .gun)
  | 'a' => some (key .ammo)
  | 'l' => some (key .loops)
  | 'w' => some (key .workers)
  | 'p' => some (key .phout)
  | 'o' => some (key .option)
  | 'h' => some help
  | 'V' => some version
  | _ => none

end Name

/-- Why a command line is not taken. -/
inductive Refusal where
  /-- A value that the option's reader refused, with the reason. -/
  | value (k : Key) (text reason : String)
  | unknown (argument : String)
  /-- An option without its value. -/
  | missing (k : Key)
  /-- A flag with a value. -/
  | surplus (argument text : String)
  | repeatedKey (k : Key)
  | repeatedFlag (f : Flag)
  /-- The help was asked for. -/
  | help
  /-- The version was asked for. -/
  | version
  deriving DecidableEq, Repr

/-! ## Values -/

/-- mirrors cli:134-138 (`parse_loops_arg`) -/
def readLoops (s : String) : Except String (Option Nat) :=
  match Config.parseLoops s with
  | .ok n => .ok n
  | .error _ => .error ("Invalid loop count: " ++ s)

/-- mirrors cli:140-149 (`parse_workers`) -/
def readWorkers (s : String) : Except String Nat :=
  if s.startsWith "+" then .error ("Invalid worker count: " ++ s)
  else match Numeral.parseNat Numeral.maxU64 s.toList with
    | .ok 0 => .error "Worker count must be greater than 0"
    | .ok n => .ok n
    | .error _ => .error ("Invalid worker count: " ++ s)

/-- mirrors cli:152-161 (`parse_key_value`) -/
def readOption (s : String) : Except String (String × String) :=
  match Text.cut? '=' s.toList with
  | none => .error ("Expected KEY=VALUE, got '" ++ s ++ "'")
  | some (k, v) =>
    let key := Text.trim k
    if key.isEmpty then .error ("Empty option key in '" ++ s ++ "'")
    else .ok (.ofList key, .ofList v)

/-- Assigns a value that was read. -/
def assign {α : Type} (k : Key) (text : String) (read : Except String α)
    (put : α → CommandLine) : Except Refusal CommandLine :=
  match read with
  | .ok a => .ok (put a)
  | .error reason => .error (.value k text reason)

/-- Assigns a path, which has to have a character at least. -/
def assignPath (k : Key) (text : String) (put : String → CommandLine) :
    Except Refusal CommandLine :=
  if text == "" then .error (.missing k) else .ok (put text)

/-- Whether an option was given that may be given once. -/
def has (c : CommandLine) : Key → Bool
  | .gun => c.gun.isSome
  | .ammo => c.ammo.isSome
  | .ammoFormat => c.ammoFormat.isSome
  | .loops => c.loops.isSome
  | .workers => c.workers.isSome
  | .capacity => c.capacity.isSome
  | .phout => c.phout.isSome
  | .option => false
  | .envFile => c.envFile.isSome
  | .logLevel => c.logLevel.isSome
  | .logFormat => c.logFormat.isSome

/-- Reads the value of an option and assigns it. -/
def put (c : CommandLine) (k : Key) (text : String) : Except Refusal CommandLine :=
  if c.has k then .error (.repeatedKey k)
  else match k with
    | .gun => .ok { c with gun := some text }
    | .ammo => assignPath k text fun p => { c with ammo := some p }
    | .ammoFormat => .ok { c with ammoFormat := some text }
    | .loops => assign k text (readLoops text) fun n => { c with loops := some n }
    | .workers => assign k text (readWorkers text) fun n => { c with workers := some n }
    | .capacity =>
      assign k text (Reading.nat Numeral.maxU64 text) fun n => { c with capacity := some n }
    | .phout => assignPath k text fun p => { c with phout := some p }
    | .option => assign k text (readOption text) fun o => { c with options := c.options ++ [o] }
    | .envFile => assignPath k text fun p => { c with envFile := some p }
    | .logLevel => .ok { c with logLevel := some text }
    | .logFormat => .ok { c with logFormat := some text }

/-- Raises a flag. -/
def raiseFlag (c : CommandLine) : Flag → Except Refusal CommandLine
  | .color => if c.color then .error (.repeatedFlag .color) else .ok { c with color := true }
  | .noColor =>
    if c.noColor then .error (.repeatedFlag .noColor) else .ok { c with noColor := true }
  | .verbose =>
    if c.verbose then .error (.repeatedFlag .verbose) else .ok { c with verbose := true }
  | .debug => if c.debug then .error (.repeatedFlag .debug) else .ok { c with debug := true }

/-! ## Arguments -/

/-- An option whose value has not been read. -/
inductive Pending where
  | none
  /-- The value is the next argument. -/
  | bare (k : Key)
  | full (k : Key) (text : String)
  deriving DecidableEq, Repr

structure Scan where
  line : CommandLine
  pending : Pending
  /-- All that follows stands for itself. -/
  escaped : Bool
  deriving DecidableEq, Repr

namespace Scan

def start : Scan := ⟨.empty, .none, false⟩

/-- Reads the value that waits. -/
def settle (s : Scan) : Except Refusal CommandLine :=
  match s.pending with
  | .none => .ok s.line
  | .bare k => .error (.missing k)
  | .full k text => s.line.put k text

/-- An option with the value that is attached to it, if there is one. -/
def option (s : Scan) (n : Name) (attached : Option String) : Except Refusal Scan :=
  match n, attached with
  | .key k, some text => do return ⟨← (← s.settle).put k text, .none, false⟩
  | n, some text => .error (.surplus ("--" ++ n.long) text)
  | .key k, none => do return ⟨← s.settle, .bare k, false⟩
  | .flag f, none => do return ⟨← (← s.settle).raiseFlag f, .none, false⟩
  | .help, none => do
    let _ ← s.settle
    throw .help
  | .version, none => do
    let _ ← s.settle
    throw .version

/-- An argument after two dashes. -/
def longOption (s : Scan) (text : List Char) : Except Refusal Scan :=
  let (name, attached) := match Text.cut? '=' text with
    | some (name, value) => (name, some (String.ofList value))
    | none => (text, none)
  match Name.ofLong? (.ofList name) with
  | some n => s.option n attached
  | none => .error (.unknown ("--" ++ .ofList name))

/-- An argument after one dash. -/
def shortOption (s : Scan) (c : Char) (rest : List Char) : Except Refusal Scan :=
  match Name.ofShort? c with
  | none => .error (.unknown (.ofList ['-', c]))
  | some (.key k) =>
    s.option (.key k) (match rest with
      | [] => none
      | '=' :: r => some (.ofList r)
      | r => some (.ofList r))
  | some n => s.option n none

/-- An argument that is no option. -/
def other (s : Scan) (argument : String) : Except Refusal Scan :=
  match s.escaped, s.pending with
  | false, .bare k => .ok { s with pending := .full k argument }
  | _, _ => .error (.unknown argument)

/-- One argument. -/
def step (s : Scan) (argument : String) : Except Refusal Scan :=
  if s.escaped then s.other argument
  else match argument.toList with
    | ['-', '-'] => .ok { s with escaped := true }
    | '-' :: '-' :: r => s.longOption r
    | '-' :: c :: r => s.shortOption c r
    | _ => s.other argument

end Scan

/-- Reads the arguments after the name of the program. -/
def parse (arguments : List String) : Except Refusal CommandLine := do
  (← arguments.foldlM Scan.step .start).settle

/-! ## Consequences -/

/-- Refuses what contradicts itself.
mirrors cli:78-90 (`Cli::validate`) -/
def validate (c : CommandLine) : Except String Unit :=
  if c.color && c.noColor then .error "Cannot specify both --color and --no-color"
  else if c.capacity == some 0 then .error "--capacity must be greater than 0"
  else .ok ()

/-- Whether a terminal in this environment takes colors.
mirrors cli:164-187 (`supports_color`) -/
def supportsColor (env : Environment) : Bool :=
  env.get? "TERM" != some "dumb" && (env.get? "NO_COLOR").isNone

/-- Whether messages are colored.
mirrors cli:93-101 (`Cli::use_colors`) -/
def useColors (c : CommandLine) (env : Environment) : Bool :=
  if c.color then true else if c.noColor then false else supportsColor env

/-- What the command line sets, a line for each.
mirrors cli:104-131 (`Cli::get_config_summary`) -/
def summary (c : CommandLine) (env : Environment) : String :=
  let row (label value : String) : String := "  " ++ label ++ ": " ++ value ++ "\n"
  let given (label : String) : Option String → String
    | some v => row label v
    | none => ""
  "Command line overrides:\n" ++ given "Gun" c.gun ++ given "Ammo" c.ammo ++
    given "Loops" (c.loops.map Config.showLoops) ++
    given "Workers" (c.workers.map Config.showNat) ++
    String.join (c.options.map fun (k, v) => row ("Option " ++ k) v) ++
    row "Colored output" (Config.showBool (c.useColors env)) ++
    row "Verbose mode" (Config.showBool c.verbose) ++ row "Debug mode" (Config.showBool c.debug)

end CommandLine

end Volley
