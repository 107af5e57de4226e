import Volley.Config.CommandLine
import Volley.Config.EnvFile

/-!
# Loading a configuration

Four layers: the initial values, the environment file, the environment and the command line. The
file only sets variables that the environment does not have, so the environment wins over it; the
command line wins over both.
-/

namespace Volley.Config

/-- Puts the command line in.
mirrors config/parser:34-85 (`ConfigParser::apply_cli_overrides`) -/
def override (c : Config) (line : CommandLine) : Config where
  gunType := line.gun.getD c.gunType
  ammoFile := line.ammo.getD c.ammoFile
  ammoFormat := line.ammoFormat.getD c.ammoFormat
  loops := line.loops.getD c.loops
  workers := line.workers.getD c.workers
  resultsCapacity := line.capacity.getD c.resultsCapacity
  phoutFile := line.phout.getD c.phoutFile
  gunOptions := line.options.foldl (fun o (k, v) => o.insert k v) c.gunOptions
  logLevel := line.logLevel <|> c.logLevel
  logFormat := line.logFormat <|> c.logFormat
  enableColor := if line.noColor then false else if line.color then true else c.enableColor
  verbose := line.verbose
  debug := line.debug

/-- The lines that tell how a configuration came about. -/
def overrideReport (c : Config) : List String :=
  ["Applied CLI overrides to configuration",
    "Final config: gun=" ++ c.gunType ++ ", workers=" ++ showNat c.workers ++ ", capacity=" ++
      showNat c.resultsCapacity]

/-- What loading gives: the configuration or why there is none, the environment with what the file
set, and the lines that were told on the way. -/
structure Loaded where
  config : Except Fault Config
  environment : Environment
  told : List String

/-- Puts the layers together.
mirrors config/parser:22-31 (`ConfigParser::parse`) -/
def load (initial : Config) (fs : FileSystem) (env : Environment) (line : CommandLine) : Loaded :=
  let telling (lines : List String) : List String := if line.debug then lines else []
  match EnvFile.load fs env line.envFile with
  | (.error e, env) => ⟨.error e, env, []⟩
  | (.ok file, env) =>
    let told := telling [EnvFile.report file]
    match mergeEnvironment env initial with
    | (.error e, _) => ⟨.error e, env, told⟩
    | (.ok _, merged) =>
      let c := merged.override line
      ⟨c.validate.map fun _ => c, env, told ++ telling c.overrideReport⟩

end Volley.Config
