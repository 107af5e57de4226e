import Volley.About
import Volley.Config.CommandLine.Help
import Volley.Config.Load
import Volley.Config.Warning
import Volley.Logging
import Volley.Report.Format

/-!
# The command

What the command prints and the code it ends with, given its arguments, the environment and the
files. It gets ready, runs, and concludes: a launch gives an exit at once or a configuration to run,
and the report of the run gives the exit. Whatever goes wrong on the way ends the command with the
code of the fault.
-/

namespace Volley

/-- What the command is started with. -/
structure Launch where
  arguments : List String
  environment : Environment
  cpus : Nat
  /-- Standard output is a terminal. -/
  terminal : Bool
  /-- What there is to tell about the build. -/
  build : String
  deriving Repr

/-- The file of the script module that a configuration names. -/
def Config.modulePath? (c : Config) : Option String := do
  let directory ← c.gunOptions.get? "module_path"
  return Extension.moduleFile directory (← c.gunOptions.get? "module_name")

/-- How the command ends. -/
inductive Exit where
  /-- The arguments were not taken. -/
  | refused (r : CommandLine.Refusal)
  /-- The text on standard output, and the texts on standard error, a line or more each. -/
  | ended (code : Nat) (output : String) (notices : List String)
  deriving Repr

namespace Exit

def code : Exit → Nat
  | refused .help | refused .version => 0
  | refused _ => 2
  | ended code _ _ => code

def output : Exit → String
  | refused .help => CommandLine.help
  | refused .version => About.versionLine ++ "\n"
  | refused _ => ""
  | ended _ output _ => output

def notices : Exit → List String
  | refused .help | refused .version => []
  | refused r => ["error: " ++ r.message]
  | ended _ _ notices => notices

/-- A fault ends the command, with advice if details are asked for. -/
def failed (form : Report.Form) (told : List String) (f : Fault) : Exit :=
  let advice := match f.kind.suggestion with
    | some text => if form.verbose then ["", text] else []
    | none => []
  .ended f.kind.exitCode "" (told ++ f.console form.color form.escapes :: advice)

end Exit

/-- A configuration to run, how faults are put, and what was told so far. -/
structure Ready where
  config : Config
  form : Report.Form
  told : List String
  deriving Repr

namespace Launch

/-- Whether the terminal takes escapes, by the conventions of the environment. -/
def takesEscapes (l : Launch) (env : Environment) : Bool :=
  let forced := match env.get? "CLICOLOR_FORCE" with
    | some v => v != "0"
    | none => false
  forced || ((env.get? "NO_COLOR").isNone && env.get? "CLICOLOR" != some "0" && l.terminal)

/-- The configuration with its size and the warnings on it. -/
def review (l : Launch) (c : Config) : Except Fault (List String) := do
  let _ ← Logging.ofConfig c
  let summary := if c.debug then ["\nConfiguration Summary:\n" ++ c.summary ++ "\n"] else []
  let warnings ← c.warnings l.cpus
  return summary ++ warnings.map (·.render c.enableColor c.enableColor)

/-- Goes up to where the run can begin.
mirrors main:35-69 (`run_application`) -/
def prepare (l : Launch) (fs : FileSystem) : Except Exit Ready := do
  let line ← (CommandLine.parse l.arguments).mapError Exit.refused
  line.validate.mapError fun message => Exit.ended 2 "" ["Error: " ++ message]
  let loaded := Config.load (.initial l.cpus) fs l.environment line
  let told := (if line.debug then [l.build, "Debug mode enabled"] else []) ++ loaded.told
  let form (escapes : Bool) : Report.Form :=
    ⟨line.useColors l.environment, escapes, line.verbose || line.debug⟩
  let c ← loaded.config.mapError (Exit.failed (form (l.takesEscapes loaded.environment)) told)
  let reviewed ← (l.review c).mapError (Exit.failed (form c.enableColor) told)
  return ⟨c, form c.enableColor, told ++ reviewed⟩

/-- The paths that the command may look at, as far as the files tell: the environment file, the
directory of the results, the ammunition, and the module of the gun. -/
def paths (l : Launch) (fs : FileSystem) : List String :=
  match CommandLine.parse l.arguments with
  | .error _ => []
  | .ok line =>
    line.envFile.getD EnvFile.defaultPath ::
      match (Config.load (.initial l.cpus) fs l.environment line).config with
      | .error _ => []
      | .ok c => FileSystem.parent c.phoutFile :: c.ammoFile :: c.modulePath?.toList

end Launch

namespace Ready

def lossNotice (lost : Nat) : String :=
  Config.showNat lost ++ " measurement(s) were lost; raise --capacity"

/-- The exit after a run.
mirrors main:35-69 (`run_application`) -/
def conclude (r : Ready) : Except Abort RunReport → Exit
  | .error (.fault f) => .failed r.form r.told f
  | .error (.panic message) => .ended 101 "" (r.told ++ [message])
  | .ok report =>
    let form := { r.form with color := r.config.enableColor }
    let loss := if 0 < report.lost then [form.warning (lossNotice report.lost)] else []
    .ended 0 (form.report report ++ "\n") (r.told ++ loss)

end Ready

/-- The whole command, with the files it leaves. -/
def Launch.run (l : Launch) (fs : FileSystem) (w : World) (stopped : Bool) (allowed : Nat) :
    Exit × FileSystem :=
  match l.prepare fs with
  | .error exit => (exit, fs)
  | .ok ready =>
    let outcome := ready.config.run fs w stopped allowed
    (ready.conclude outcome.report, outcome.files)

end Volley
