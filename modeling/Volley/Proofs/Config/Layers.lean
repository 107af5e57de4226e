import Volley.Config.Load
import Volley.Proofs.Config.EnvFile

/-!
# The layers of a configuration

What is loaded is put together from four layers: what the command line says goes first, then the
environment, then the environment file, and last the initial values. Each setting takes its value
from the first layer that has one, and so does each option of the gun.

* `settingsLayered_merged`, `SettingsLayered.override`: the settings, layer by layer.
* `lookup?_optionVariables`, `optionsLayered_override`: the options, layer by layer.
* `load_layers`: a configuration that was loaded.
-/
namespace Volley

/-- What the command line says of colors, where no color goes first. -/
def CommandLine.color? (line : CommandLine) : Option Bool :=
  if line.noColor then some false else if line.color then some true else none

namespace Config

/-! ## Settings -/

/-- A value is the given one; if there is none, it is read from the text of a variable; if that is
not set either, it is the default. -/
def Layered {α : Type} (given : Option α) (text : Option String) (read : String → Option α)
    (fallback value : α) : Prop :=
  match given, text with
  | some a, _ => value = a
  | none, some v => read v = some value
  | none, none => value = fallback

/-- The count that a variable holds. -/
def count? (v : String) : Option Nat :=
  (Numeral.parseNat Numeral.maxU64 (Text.trim v.toList)).toOption

/-- Every setting that has a variable is layered: the command line, the texts of variables, and the
defaults. -/
structure SettingsLayered (line : CommandLine) (text : String → Option String) (d c : Config) :
    Prop where
  gunType : Layered line.gun (text "BFG_GUN_TYPE") (some ∘ Text.trimmed) d.gunType c.gunType
  ammoFile : Layered line.ammo (text "BFG_AMMO_FILE") (some ∘ Text.trimmed) d.ammoFile c.ammoFile
  ammoFormat : Layered line.ammoFormat (text "BFG_AMMO_FORMAT") (some ∘ Text.trimmed) d.ammoFormat
    c.ammoFormat
  loops : Layered line.loops (text "BFG_LOOPS") (fun v => (parseLoops v).toOption) d.loops c.loops
  workers : Layered line.workers (text "BFG_WORKERS") count? d.workers c.workers
  resultsCapacity : Layered line.capacity (text "BFG_RESULTS_CAPACITY") count? d.resultsCapacity
    c.resultsCapacity
  phoutFile : Layered line.phout (text "BFG_PHOUT_FILE") (some ∘ Text.trimmed) d.phoutFile
    c.phoutFile
  logLevel : Layered (line.logLevel.map some) (text "BFG_LOG_LEVEL")
    (fun v => some (some (Text.trimmed v))) d.logLevel c.logLevel
  logFormat : Layered (line.logFormat.map some) (text "BFG_LOG_FORMAT")
    (fun v => some (some (Text.trimmed v))) d.logFormat c.logFormat
  enableColor : Layered line.color? (text "BFG_ENABLE_COLOR")
    (fun v => (Reading.bool (Text.trimmed v)).toOption) d.enableColor c.enableColor

section
variable {α : Type} {given : Option α} {text : Option String} {read : String → Option α}
  {fallback value : α}

/-- What is given goes over the layers below. -/
theorem Layered.over (h : Layered none text read fallback value) (given : Option α) :
    Layered given text read fallback (given.getD value) := by
  cases given with
  | some a => exact rfl
  | none => exact h

/-- A variable is put in by an assignment, which reads its text and changes one setting. -/
theorem layered_of_mergeVariable {env : Environment} {name : String}
    {assign : String → Config → Except Fault Config} {c c' : Config}
    (h : mergeVariable env name assign c = .ok c') (read : String → Option α) (set : α → Config)
    (hkeep : set fallback = c) (hassign : ∀ v, (assign v c).toOption = (read v).map set) :
    ∃ a, Layered none (env.get? name) read fallback a ∧ c' = set a := by
  unfold mergeVariable at h
  cases hv : env.get? name with
  | none =>
    rw [hv] at h
    cases h
    exact ⟨fallback, rfl, hkeep.symm⟩
  | some v =>
    simp only [hv] at h
    have hread := hassign v
    rw [h] at hread
    obtain ⟨a, ha, hset⟩ := Option.map_eq_some_iff.mp hread.symm
    exact ⟨a, ha, hset.symm⟩

end

section
variable (c : Config) (v : String)

theorem toOption_assignLoops : (assignLoops v c).toOption =
    (parseLoops v).toOption.map fun loops => { c with loops } := by
  unfold assignLoops
  cases parseLoops v <;> rfl

theorem toOption_assignWorkers : (assignWorkers v c).toOption =
    (count? v).map fun workers => { c with workers } := by
  unfold assignWorkers count?
  cases Numeral.parseNat Numeral.maxU64 (Text.trim v.toList) <;> rfl

theorem toOption_assignCapacity : (assignCapacity v c).toOption =
    (count? v).map fun resultsCapacity => { c with resultsCapacity } := by
  unfold assignCapacity count?
  cases Numeral.parseNat Numeral.maxU64 (Text.trim v.toList) <;> rfl

theorem toOption_assignColor : (assignColor v c).toOption =
    (Reading.bool (Text.trimmed v)).toOption.map fun enableColor => { c with enableColor } := by
  unfold assignColor
  cases Reading.bool (Text.trimmed v) <;> rfl

end

theorem mergeSettings_cons {env : Environment} {name : String}
    {assign : String → Config → Except Fault Config}
    {rest : List (String × (String → Config → Except Fault Config))} {c c' : Config} {u : Unit}
    (h : mergeSettings env ((name, assign) :: rest) c = (.ok u, c')) :
    ∃ between, mergeVariable env name assign c = .ok between ∧
      mergeSettings env rest between = (.ok u, c') := by
  rw [mergeSettings] at h
  cases hm : mergeVariable env name assign c with
  | error e =>
    rw [hm] at h
    cases h
  | ok between =>
    rw [hm] at h
    exact ⟨between, rfl, h⟩

/-- The variables of the settings are put in, each in its place, and nothing else changes. -/
theorem settingsLayered_merged {env : Environment} {d c : Config} {u : Unit}
    (h : mergeSettings env assignments d = (.ok u, c)) :
    SettingsLayered .empty env.get? d c ∧ c.gunOptions = d.gunOptions := by
  -- One step for each variable. A step reads the setting it changes from the step before.
  unfold assignments at h
  obtain ⟨c₁, h₁, h⟩ := mergeSettings_cons h
  obtain ⟨c₂, h₂, h⟩ := mergeSettings_cons h
  obtain ⟨c₃, h₃, h⟩ := mergeSettings_cons h
  obtain ⟨c₄, h₄, h⟩ := mergeSettings_cons h
  obtain ⟨c₅, h₅, h⟩ := mergeSettings_cons h
  obtain ⟨c₆, h₆, h⟩ := mergeSettings_cons h
  obtain ⟨c₇, h₇, h⟩ := mergeSettings_cons h
  obtain ⟨c₈, h₈, h⟩ := mergeSettings_cons h
  obtain ⟨c₉, h₉, h⟩ := mergeSettings_cons h
  obtain ⟨c₁₀, h₁₀, h⟩ := mergeSettings_cons h
  cases h
  obtain ⟨gunType, hgunType, e₁⟩ := layered_of_mergeVariable h₁ (some ∘ Text.trimmed)
    (fun gunType => { d with gunType }) rfl fun _ => rfl
  obtain ⟨ammoFile, hammoFile, e₂⟩ := layered_of_mergeVariable h₂ (some ∘ Text.trimmed)
    (fun ammoFile => { c₁ with ammoFile }) rfl fun _ => rfl
  obtain ⟨ammoFormat, hammoFormat, e₃⟩ := layered_of_mergeVariable h₃ (some ∘ Text.trimmed)
    (fun ammoFormat => { c₂ with ammoFormat }) rfl fun _ => rfl
  obtain ⟨loops, hloops, e₄⟩ := layered_of_mergeVariable h₄ (fun v => (parseLoops v).toOption)
    (fun loops => { c₃ with loops }) rfl (toOption_assignLoops c₃)
  obtain ⟨workers, hworkers, e₅⟩ := layered_of_mergeVariable h₅ count?
    (fun workers => { c₄ with workers }) rfl (toOption_assignWorkers c₄)
  obtain ⟨resultsCapacity, hcapacity, e₆⟩ := layered_of_mergeVariable h₆ count?
    (fun resultsCapacity => { c₅ with resultsCapacity }) rfl (toOption_assignCapacity c₅)
  obtain ⟨phoutFile, hphoutFile, e₇⟩ := layered_of_mergeVariable h₇ (some ∘ Text.trimmed)
    (fun phoutFile => { c₆ with phoutFile }) rfl fun _ => rfl
  obtain ⟨logLevel, hlogLevel, e₈⟩ := layered_of_mergeVariable h₈
    (fun v => some (some (Text.trimmed v))) (fun logLevel => { c₇ with logLevel }) rfl fun _ => rfl
  obtain ⟨logFormat, hlogFormat, e₉⟩ := layered_of_mergeVariable h₉
    (fun v => some (some (Text.trimmed v))) (fun logFormat => { c₈ with logFormat }) rfl
    fun _ => rfl
  obtain ⟨enableColor, henableColor, e₁₀⟩ := layered_of_mergeVariable h₁₀
    (fun v => (Reading.bool (Text.trimmed v)).toOption)
    (fun enableColor => { c₉ with enableColor }) rfl (toOption_assignColor c₉)
  subst e₁ e₂ e₃ e₄ e₅ e₆ e₇ e₈ e₉ e₁₀
  exact ⟨⟨hgunType, hammoFile, hammoFormat, hloops, hworkers, hcapacity, hphoutFile, hlogLevel,
    hlogFormat, henableColor⟩, rfl⟩

/-- The options of the gun are no such settings. -/
theorem SettingsLayered.mergeOptions {line : CommandLine} {text : String → Option String}
    {d c : Config} (h : SettingsLayered line text d c) (env : Environment) :
    SettingsLayered line text d (mergeOptions env c) :=
  ⟨h.gunType, h.ammoFile, h.ammoFormat, h.loops, h.workers, h.resultsCapacity, h.phoutFile,
    h.logLevel, h.logFormat, h.enableColor⟩

/-- The command line goes over the settings that were there. -/
theorem SettingsLayered.override {text : String → Option String} {d c : Config}
    (h : SettingsLayered .empty text d c) (line : CommandLine) :
    SettingsLayered line text d (c.override line) := by
  have hcolor := h.enableColor.over line.color?
  have hlevel := h.logLevel.over (line.logLevel.map some)
  have hformat := h.logFormat.over (line.logFormat.map some)
  refine ⟨h.gunType.over line.gun, h.ammoFile.over line.ammo, h.ammoFormat.over line.ammoFormat,
    h.loops.over line.loops, h.workers.over line.workers, h.resultsCapacity.over line.capacity,
    h.phoutFile.over line.phout, ?_, ?_, ?_⟩
  · show Layered _ _ _ _ (line.logLevel <|> c.logLevel)
    cases hl : line.logLevel <;> rw [hl] at hlevel <;> exact hlevel
  · show Layered _ _ _ _ (line.logFormat <|> c.logFormat)
    cases hf : line.logFormat <;> rw [hf] at hformat <;> exact hformat
  · show Layered _ _ _ _
      (if line.noColor then false else if line.color then true else c.enableColor)
    unfold CommandLine.color? at hcolor ⊢
    cases hn : line.noColor <;> cases hc : line.color <;> rw [hn, hc] at hcolor <;> exact hcolor

/-! ## Options -/

/-- Every option is layered: the last one of the command line under its key, else the text of the
variable that stands for the key. There are no other options. -/
structure OptionsLayered (given : List (String × String)) (text : String → Option String)
    (o : Options) : Prop where
  line {key value : String} (h : Json.lookup? key given = some value) : o.get? key = some value
  named {key name value : String} (h : Json.lookup? key given = none)
    (hname : optionKey? name = some key) (hvalue : text name = some value) : o.get? key = some value
  absent {key : String} (h : Json.lookup? key given = none)
    (hnone : ∀ name, optionKey? name = some key → text name = none) : o.get? key = none

/-- No two names of variables stand for the same option. -/
def Distinct (entries : List (String × String)) : Prop :=
  ∀ e ∈ entries, ∀ f ∈ entries, (optionKey? e.1).isSome = true →
    optionKey? e.1 = optionKey? f.1 → e.1 = f.1

/-- If only one name stands for a key, what is found under the key is the last one by that name. -/
theorem lookup?_optionVariables {env : Environment} {name key : String}
    (hname : optionKey? name = some key)
    (honly : ∀ e ∈ env.entries, optionKey? e.1 = some key → e.1 = name) :
    Json.lookup? key (optionVariables env) = env.last? name := by
  obtain ⟨entries⟩ := env
  unfold optionVariables Environment.last?
  dsimp only at honly ⊢
  induction entries with
  | nil => rfl
  | cons e entries ih =>
    have hrest := ih fun f hf => honly f (List.mem_cons_of_mem _ hf)
    have hfirst := honly e List.mem_cons_self
    rw [List.filterMap_cons, Json.lookup?_cons name, ← hrest]
    -- The entry is found under the key exactly if it is found by the name.
    cases hk : optionKey? e.1 with
    | none =>
      have hne : e.1 ≠ name := by
        rintro rfl
        cases hk.symm.trans hname
      rw [if_neg hne, Option.or_none]
      rfl
    | some k =>
      have hiff : k = key ↔ e.1 = name := by
        constructor
        · rintro rfl
          exact hfirst hk
        · intro he
          rw [he, hname] at hk
          exact (Option.some.inj hk).symm
      simp only [Option.map_some, Json.lookup?_cons, hiff]

theorem lookup?_optionVariables_eq_none {env : Environment} {key : String}
    (h : ∀ name, optionKey? name = some key → env.last? name = none) :
    Json.lookup? key (optionVariables env) = none := by
  refine Json.lookup?_eq_none.mpr fun option hoption => ?_
  obtain ⟨e, he, hk⟩ := List.mem_filterMap.mp hoption
  obtain ⟨k, hname, rfl⟩ := Option.map_eq_some_iff.mp hk
  rintro rfl
  exact Json.lookup?_eq_none.mp (h e.1 hname) e he rfl

theorem get?_mergeOptions (c : Config) (env : Environment) (key : String) :
    (mergeOptions env c).gunOptions.get? key =
      (Json.lookup? key (optionVariables env)).or (c.gunOptions.get? key) :=
  Options.get?_insertAll c.gunOptions (optionVariables env) key

/-- The options of the gun, where none was set before. -/
theorem optionsLayered_override {env : Environment} {c : Config} (hempty : c.gunOptions = .empty)
    (hdistinct : Distinct env.entries) (line : CommandLine) :
    OptionsLayered line.options env.last? ((mergeOptions env c).override line).gunOptions := by
  have hget : ∀ key, ((mergeOptions env c).override line).gunOptions.get? key =
      (Json.lookup? key line.options).or (Json.lookup? key (optionVariables env)) := by
    intro key
    have hline : ((mergeOptions env c).override line).gunOptions.get? key =
        (Json.lookup? key line.options).or ((mergeOptions env c).gunOptions.get? key) :=
      Options.get?_insertAll (mergeOptions env c).gunOptions line.options key
    rw [hline, get?_mergeOptions, hempty, show Options.empty.get? key = none from rfl,
      Option.or_none]
  refine ⟨fun h => ?_, fun h hname hvalue => ?_, fun h hnone => ?_⟩
  · rw [hget, h, Option.some_or]
  · rename_i key name value
    have hset : (name, value) ∈ env.entries := Json.mem_of_lookup? hvalue
    have honly : ∀ e ∈ env.entries, optionKey? e.1 = some key → e.1 = name := fun e he hk =>
      hdistinct e he _ hset (by rw [hk]; rfl) (hk.trans hname.symm)
    rw [hget, h, Option.none_or, lookup?_optionVariables hname honly, hvalue]
  · rw [hget, h, Option.none_or, lookup?_optionVariables_eq_none hnone]

/-! ## Loading -/

/-- What a configuration that was loaded went through. -/
theorem load_cases {d c : Config} {fs : FileSystem} {env : Environment} {line : CommandLine}
    (h : (load d fs env line).config = .ok c) :
    ∃ file env' merged, EnvFile.load fs env line.envFile = (.ok file, env') ∧
      mergeSettings env' assignments d = (.ok ⟨⟩, merged) ∧
      c = (mergeOptions env' merged).override line ∧ c.validate = .ok ⟨⟩ := by
  unfold load at h
  cases hfile : EnvFile.load fs env line.envFile with
  | mk result env' =>
  rw [hfile] at h
  cases result with
  | error e => cases h
  | ok file =>
    dsimp only at h
    unfold mergeEnvironment at h
    cases hmerge : mergeSettings env' assignments d with
    | mk result merged =>
    rw [hmerge] at h
    cases result with
    | error e => cases h
    | ok u =>
      dsimp only at h
      refine ⟨file, env', merged, rfl, hmerge, ?_⟩
      cases hvalid : ((mergeOptions env' merged).override line).validate with
      | error e =>
        rw [hvalid] at h
        cases h
      | ok u =>
        rw [hvalid] at h
        cases h
        exact ⟨rfl, hvalid⟩

/-- **A loaded configuration is layered.** Each setting with a variable is that of the command line
if it is given there; else it is read from the variable of the process, or else from the first
assignment of the environment file to it, or else it is the initial one. No color goes over color.
An option of the gun is the last one of the command line under its key, or else the text of the
variable that stands for the key, of the process or else of the file, and there are no others. What
has no variable is that of the command line, and the configuration is a valid one. A process can
list a variable twice: then settings take the first text and options the last. -/
theorem load_layers {cpus : Nat} {fs : FileSystem} {env : Environment} {line : CommandLine}
    {c : Config} (h : (load (.initial cpus) fs env line).config = .ok c)
    (hdistinct : Distinct (env.entries ++ EnvFile.assignedBy fs env line.envFile)) :
    let file := EnvFile.assignedBy fs env line.envFile
    SettingsLayered line (fun name => (env.get? name).or (file.lookup name)) (.initial cpus) c ∧
      OptionsLayered line.options (fun name => (env.last? name).or (file.lookup name))
        c.gunOptions ∧
      c.verbose = line.verbose ∧ c.debug = line.debug ∧ c.validate = .ok ⟨⟩ ∧
      ∀ path, line.envFile = some path → ∃ bytes, fs.read path = .ok bytes := by
  intro file
  obtain ⟨found, env', merged, hload, hmerge, rfl, hvalid⟩ := load_cases h
  have henv : env' = env.setDefaults file := EnvFile.load_eq hload
  have hget : env'.get? = fun name => (env.get? name).or (file.lookup name) := by
    funext name
    rw [henv]
    exact Environment.read_setDefaults (·.get? name) name
      (fun env n value => env.get?_setDefault n value name) file env
  have hlast : env'.last? = fun name => (env.last? name).or (file.lookup name) := by
    funext name
    rw [henv]
    exact Environment.read_setDefaults (·.last? name) name
      (fun env n value => env.last?_setDefault n value name) file env
  have hnames : Distinct env'.entries := by
    have hmem : ∀ e ∈ env'.entries, e ∈ env.entries ++ file := fun e he => by
      rw [henv] at he
      exact List.mem_append.mpr (Environment.mem_setDefaults file he)
    exact fun e he f hf => hdistinct e (hmem e he) f (hmem f hf)
  obtain ⟨hsettings, hoptions⟩ := settingsLayered_merged hmerge
  rw [← hget, ← hlast]
  exact ⟨(hsettings.mergeOptions env').override line,
    optionsLayered_override hoptions hnames line, rfl, rfl, hvalid,
    fun path hpath => EnvFile.read_of_load (hpath ▸ hload)⟩

/-- A process with four variables. -/
def sampleEnvironment : Environment :=
  ⟨[("RUN", "7"), ("BFG_GUN_TYPE", " http "), ("BFG_WORKERS", "8"), ("BFG_OPT_TIMEOUT", "5")]⟩

/-- A file that assigns one of them as well. -/
def sampleEnvFile : FileSystem := .ofList [(".env", .file (Text.Utf8.bytesOf
  "BFG_LOOPS=inf\nBFG_WORKERS=9\nBFG_PHOUT_FILE=out-$RUN.log\nBFG_OPT_Retries=2\n"))]

def sampleLine : CommandLine :=
  { CommandLine.empty with
    workers := some 3
    options := [("timeout", "1"), ("timeout", "2")]
    color := true
    noColor := true }

def sampleLoaded : Config :=
  { Config.initial 2 with
    gunType := "http"
    loops := none
    workers := 3
    phoutFile := "out-7.log"
    gunOptions := .ofList [("retries", "2"), ("timeout", "2")]
    enableColor := false }

theorem load_layers_sampleLoaded :
    let file := EnvFile.assignedBy sampleEnvFile sampleEnvironment sampleLine.envFile
    ((load (.initial 2) sampleEnvFile sampleEnvironment sampleLine).config = .ok sampleLoaded ∧
      Distinct (sampleEnvironment.entries ++ file)) ∧
    file = [("BFG_LOOPS", "inf"), ("BFG_WORKERS", "9"), ("BFG_PHOUT_FILE", "out-7.log"),
      ("BFG_OPT_Retries", "2")] ∧
    SettingsLayered sampleLine
      (fun name => (sampleEnvironment.get? name).or (file.lookup name)) (.initial 2)
      sampleLoaded ∧
    OptionsLayered sampleLine.options
      (fun name => (sampleEnvironment.last? name).or (file.lookup name))
      sampleLoaded.gunOptions := by
  intro file
  have hload : (load (.initial 2) sampleEnvFile sampleEnvironment sampleLine).config =
      .ok sampleLoaded := ok_of_toOption (by decide +kernel)
  have hdistinct : Distinct (sampleEnvironment.entries ++ file) := by
    unfold Distinct
    decide +kernel
  obtain ⟨hsettings, hoptions, -⟩ := load_layers hload hdistinct
  exact ⟨⟨hload, hdistinct⟩, by decide +kernel, hsettings, hoptions⟩

end Config

end Volley
