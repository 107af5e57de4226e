import Volley.Config.Warning
import Volley.Proofs.Config.Checks
import Volley.Proofs.Gun.TimeLimit
import Volley.Proofs.Options

/-!
# Required options

Which options a gun cannot be built without is written down twice: in a table that the warnings are
made from, and in the constructors, which ask for one option after the other and read further ones
in between. The two agree, also in the order, so the warnings tell whether a gun can be built.

* `Gun.Needs`: the constructors' side, without a look at the table.
* `Gun.build_missing_iff`: a gun is refused for the first option that is missing.
* `Gun.needs_iff_mem`: the table has just the options that are needed.
* `Config.errors_warnings`: the errors among the warnings of a configuration.
* `Config.warnings_predict_build`: those warnings and the gun that is built.
-/
namespace Volley

/-! ## Missing keys -/

namespace Options

variable {o : Options} {key : String}

theorem missing_inj {other : String} : missing key = missing other ↔ key = other := by
  refine ⟨fun h => ?_, congrArg missing⟩
  have hmessage : "Missing key: " ++ key = "Missing key: " ++ other := congrArg Fault.message h
  simpa using hmessage

/-- A message that begins otherwise is that of another fault. -/
theorem ne_missing {c : Char} (front rest : String) (hfront : front.toList.head? = some c)
    (hc : c ≠ 'M') : Fault.gunConfig (front ++ rest) ≠ missing key := by
  intro heq
  have hmessage : front ++ rest = "Missing key: " ++ key := congrArg Fault.message heq
  have hhead := congrArg (fun s : String => s.toList.head?) hmessage
  simp only [String.toList_append, List.head?_append, hfront] at hhead
  exact hc (Option.some.inj hhead)

theorem contains_ofList_iff {pairs : List (String × String)} :
    (ofList pairs).contains key = true ↔ key ∈ pairs.map (·.1) := by
  have hget : (ofList pairs).get? key = (Json.lookup? key pairs).or none :=
    get?_insertAll empty pairs key
  rw [contains, hget, Option.or_none, Option.isSome_iff_ne_none, ne_eq, Json.lookup?_eq_none]
  simp [eq_comm]

/-- An option that may be left out fails by its value only. -/
theorem readD_ne_missing {α : Type} (name : String) (reader : String → Except String α)
    (fallback : α) : o.readD name reader fallback ≠ .error (missing key) := by
  intro h
  unfold readD at h
  split at h
  · rename_i hcontains
    obtain ⟨raw, hraw⟩ := (exists_require_iff (o := o)).mpr hcontains
    obtain hnone | ⟨v, hv, h⟩ := bind_eq_error_iff.mp h
    · rw [hraw] at hnone
      cases hnone
    · split at h
      · cases h
      · have hfault := Except.error.inj h
        simp only [String.append_assoc] at hfault
        exact ne_missing _ _ rfl (by decide) hfault
  · cases h

end Options

namespace Abort

variable {α β : Type}

theorem lift_eq_error_iff {r : Except Fault α} {f : Fault} :
    lift r = .error (.fault f) ↔ r = .error f := by
  cases r <;> simp [lift, Except.mapError]

theorem lift_bind (r : Except Fault α) (rest : α → Except Fault β) :
    lift (r >>= rest) = lift r >>= fun a => lift (rest a) := by
  cases r <;> rfl

end Abort

namespace Gun

open Options (missing missing_inj ne_missing)

variable {α : Type} {o : Options} {kind : GunKind} {key owner : String} {c : Char}

/-! ## The time limit -/

theorem limitOf_faults_iff {p : Option Numeral.Binary} {f : Fault} :
    limitOf owner p = .error (.fault f) ↔
      p = none ∧ f = .gunConfig (owner ++ " must be greater than 0") := by
  cases p with
  | none =>
    have hthrown : limitOf owner none =
        .error (.fault (.gunConfig (owner ++ " must be greater than 0"))) := rfl
    simp [hthrown, eq_comm]
  | some b =>
    have hdemanded : ∀ s, demandSpan s ≠ .error (.fault f) := by
      intro s h
      cases s <;> cases h
    simpa [limitOf] using hdemanded _

/-- A time limit fails by its value only. -/
theorem timeLimit_ne_missing (howner : owner.toList.head? = some c) (hc : c ≠ 'M')
    (fallback : Nat) : timeLimit o owner fallback ≠ .error (.fault (missing key)) := by
  intro h
  obtain h | ⟨seconds, -, h⟩ := bind_eq_error_iff.mp h
  · exact o.readD_ne_missing _ _ _ (Abort.lift_eq_error_iff.mp h)
  · obtain ⟨-, hfault⟩ := limitOf_faults_iff.mp h
    exact ne_missing owner _ howner hc hfault.symm

theorem limited_ne_missing (howner : owner.toList.head? = some c) (hc : c ≠ 'M')
    (fallback : Nat) (make : Span → α) :
    (do return make (← timeLimit o owner fallback)) ≠ .error (.fault (missing key)) := by
  intro h
  obtain h | ⟨limit, -, h⟩ := bind_eq_error_iff.mp h
  · exact timeLimit_ne_missing howner hc fallback h
  · cases h

/-! ## What a gun needs -/

/-- A gun of the kind cannot be built without the option, whatever else there is. -/
def Needs (kind : GunKind) (key : String) : Prop :=
  ∀ o : Options, o.contains key = false →
    ∃ first, build kind o = .error (.fault (missing first))

/-- The first of the options that is missing. -/
def firstMissing (o : Options) (keys : List String) : Option String :=
  keys.find? fun key => !o.contains key

/-- What asks for an option and goes on fails by the first that is missing, if what it goes on with
does. -/
theorem asked_missing_iff {first : String} {keys : List String} {rest : String → Except Abort α}
    (hrest : ∀ v, rest v = .error (.fault (missing key)) ↔ firstMissing o keys = some key) :
    (Abort.lift (o.require first) >>= rest) = .error (.fault (missing key)) ↔
      firstMissing o (first :: keys) = some key := by
  obtain ⟨hthere, v, hv⟩ | ⟨hgone, hfault⟩ := o.require_cases first
  · have hnext : firstMissing o (first :: keys) = firstMissing o keys := by
      simp [firstMissing, hthere]
    rw [hnext, ← hrest v, hv]
    rfl
  · have hfirst : firstMissing o (first :: keys) = some first := by
      simp [firstMissing, hgone]
    have hthrown : (Abort.lift (o.require first) >>= rest) = .error (.fault (missing first)) := by
      rw [hfault]
      rfl
    rw [hfirst, hthrown]
    simp [missing_inj]

/-- Nothing is asked for any more. -/
theorem settled_missing_iff {r : Except Abort α} (h : r ≠ .error (.fault (missing key))) :
    r = .error (.fault (missing key)) ↔ firstMissing o [] = some key :=
  iff_of_false h nofun

theorem log_missing_iff : Abort.lift (LogGun.build o) = .error (.fault (missing key)) ↔
    firstMissing o ["param"] = some key := by
  simp only [LogGun.build, Abort.lift_bind]
  exact asked_missing_iff fun _ => settled_missing_iff nofun

theorem http_missing_iff : HttpGun.build o = .error (.fault (missing key)) ↔
    firstMissing o ["base_address"] = some key :=
  asked_missing_iff fun _ => settled_missing_iff (limited_ne_missing rfl (by decide) _ _)

theorem sql_missing_iff : SqlGun.build o = .error (.fault (missing key)) ↔
    firstMissing o ["db"] = some key := by
  refine asked_missing_iff fun address => settled_missing_iff fun h => ?_
  obtain h | ⟨size, -, h⟩ := bind_eq_error_iff.mp h
  · exact o.readD_ne_missing _ _ _ (Abort.lift_eq_error_iff.mp h)
  · by_cases hzero : size = 0
    · rw [if_pos hzero] at h
      have hfault := Abort.fault.inj (Except.error.inj h)
      exact ne_missing "pool_size must be greater than 0" "" rfl (by decide) hfault
    · rw [if_neg hzero] at h
      exact limited_ne_missing rfl (by decide) _ _ h

theorem script_missing_iff {keys : List String}
    (hrole : Abort.lift (ScriptGun.readRole o kind) = .error (.fault (missing key)) ↔
      firstMissing o keys = some key) :
    Abort.lift (ScriptGun.build kind o) = .error (.fault (missing key)) ↔
      firstMissing o ("module_path" :: "module_name" :: keys) = some key := by
  simp only [ScriptGun.build, Abort.lift_bind]
  refine asked_missing_iff fun path => asked_missing_iff fun name => ?_
  rw [← hrole, bind_eq_error_iff]
  refine or_iff_left ?_
  rintro ⟨role, -, h⟩
  cases h

theorem readRole_missing_iff : Abort.lift (ScriptGun.readRole o .ultimate) =
    .error (.fault (missing key)) ↔ firstMissing o ["class_name"] = some key := by
  simp only [ScriptGun.readRole, Abort.lift_bind]
  exact asked_missing_iff fun _ => settled_missing_iff nofun

/-- A gun cannot be built for want of an option exactly if it is the first that is missing. -/
theorem build_missing_iff (o : Options) (kind : GunKind) (key : String) :
    build kind o = .error (.fault (missing key)) ↔
      firstMissing o (Config.requiredOptions kind) = some key := by
  have hmap : ∀ {α : Type} (r : Except Abort α) (make : α → Gun),
      r.map make = .error (.fault (missing key)) ↔ r = .error (.fault (missing key)) := by
    intro α r make
    cases r <;> simp [Except.map]
  cases kind with
  | log => exact (hmap _ _).trans log_missing_iff
  | http => exact (hmap _ _).trans http_missing_iff
  | sql => exact (hmap _ _).trans sql_missing_iff
  | custom => exact (hmap _ _).trans (script_missing_iff (settled_missing_iff nofun))
  | scenario => exact (hmap _ _).trans (script_missing_iff (settled_missing_iff nofun))
  | ultimate => exact (hmap _ _).trans (script_missing_iff readRole_missing_iff)

/-- The table lists the options that a gun of the kind needs, and no others. -/
theorem needs_iff_mem {kind : GunKind} {key : String} :
    Needs kind key ↔ key ∈ Config.requiredOptions kind := by
  constructor
  · intro hneeds
    refine Decidable.byContradiction fun hmem => ?_
    -- a gun with all the options of the table is not refused for want of another one
    have hcontains : ∀ other, (Options.ofList ((Config.requiredOptions kind).map
        fun required => (required, ""))).contains other = true ↔
          other ∈ Config.requiredOptions kind := by
      intro other
      rw [Options.contains_ofList_iff, List.map_map]
      simp [Function.comp_def]
    generalize Options.ofList _ = o at hcontains
    have hgone : o.contains key = false :=
      Bool.eq_false_iff.mpr fun h => hmem ((hcontains key).mp h)
    obtain ⟨first, hbuild⟩ := hneeds o hgone
    have hfirst := (build_missing_iff o kind first).mp hbuild
    have habsent := List.find?_some hfirst
    have hlisted := List.mem_of_find?_eq_some hfirst
    rw [(hcontains first).mpr hlisted] at habsent
    cases habsent
  · intro hmem o hgone
    have hsome : (firstMissing o (Config.requiredOptions kind)).isSome = true :=
      List.find?_isSome.mpr ⟨key, hmem, by simp [hgone]⟩
    obtain ⟨first, hfirst⟩ := Option.isSome_iff_exists.mp hsome
    exact ⟨first, (build_missing_iff o kind first).mpr hfirst⟩

end Gun

/-! ## Warnings -/

namespace Config

open Options (missing)

variable {c : Config} {kind : GunKind} {key : String}

/-- The required options that are missing, in the order in which they are asked for. -/
def lacking (c : Config) (kind : GunKind) : List String :=
  (requiredOptions kind).filter fun key => !c.gunOptions.contains key

theorem mem_lacking_iff :
    key ∈ c.lacking kind ↔ Gun.Needs kind key ∧ c.gunOptions.contains key = false := by
  rw [lacking, List.mem_filter, Gun.needs_iff_mem, Bool.not_eq_true']

theorem nodup_lacking (c : Config) (kind : GunKind) : (c.lacking kind).Nodup :=
  List.Pairwise.filter _ (by cases kind <;> decide)

theorem head?_lacking : (c.lacking kind).head? =
    Gun.firstMissing c.gunOptions (requiredOptions kind) :=
  List.head?_filter

/-- A warning names the option: the text around the name is of the same length for all. -/
theorem missingOption_inj {other : String} :
    missingOption kind key = missingOption kind other ↔ key = other := by
  refine ⟨fun h => ?_, congrArg _⟩
  have hmessage := congrArg (fun w : Warning => w.message.toList) h
  simp only [missingOption, String.toList_append, List.append_assoc,
    List.append_cancel_left_eq] at hmessage
  have hlength := congrArg List.length hmessage
  simp only [List.length_append] at hlength
  exact String.toList_inj.mp (List.append_inj_left hmessage (by omega))

/-- The warnings that are errors. -/
def errors (warnings : List Warning) : List Warning :=
  warnings.filter fun w => w.severity = .error

theorem errors_append (first later : List Warning) :
    errors (first ++ later) = errors first ++ errors later :=
  List.filter_append ..

theorem errors_when {holds : Bool} {severity : Severity} (h : severity ≠ .error)
    (message : String) : errors (when holds severity message) = [] := by
  cases holds <;> simp [errors, when, h]

theorem errors_missingOption (keys : List String) :
    errors (keys.map (missingOption kind)) = keys.map (missingOption kind) := by
  rw [errors, List.filter_eq_self]
  intro w hw
  obtain ⟨key, -, rfl⟩ := List.mem_map.mp hw
  rfl

/-- Nothing but a missing option is an error. -/
theorem errors_warnings (c : Config) (kind : GunKind) (cpus : Nat) :
    errors (c.optionWarnings kind ++ c.sizeWarnings cpus) =
      (c.lacking kind).map (missingOption kind) := by
  have hinfo : ∀ holds message, errors (when holds .info message) = [] := fun _ =>
    errors_when nofun
  have hwarning : ∀ holds message, errors (when holds .warning message) = [] := fun _ =>
    errors_when nofun
  simp only [optionWarnings, sizeWarnings, errors_append, hinfo, hwarning, List.append_nil,
    errors_missingOption]
  rfl

/-- **The warnings tell whether the gun can be built.** Of a configuration that can be run there is
an error among the warnings exactly if the gun is refused for want of an option; then the first
error names that option, and there are as many errors as options that the gun needs and does not
have. -/
theorem warnings_predict_build (h : c.validate = .ok ()) (cpus : Nat) :
    ∃ (kind : GunKind) (warnings : List Warning) (keys : List String),
      c.gunKind = .ok kind ∧ c.warnings cpus = .ok warnings ∧
      ((∃ w ∈ warnings, w.severity = .error) ↔
        ∃ key, Gun.build kind c.gunOptions =
          .error (.fault (.gunConfig ("Missing key: " ++ key)))) ∧
      (∀ key, Gun.build kind c.gunOptions =
          .error (.fault (.gunConfig ("Missing key: " ++ key))) ↔
        warnings.find? (fun w => w.severity = .error) = some (missingOption kind key)) ∧
      (warnings.filter fun w => w.severity = .error).length = keys.length ∧ keys.Nodup ∧
      ∀ key, key ∈ keys ↔ Gun.Needs kind key ∧ c.gunOptions.contains key = false := by
  obtain ⟨kind, hkind⟩ := ((validate_eq_ok_iff c).mp h).kind
  have hwarnings : c.warnings cpus = .ok (c.optionWarnings kind ++ c.sizeWarnings cpus) := by
    have hgun : c.gunKind = .ok kind := hkind
    rw [warnings, h, hgun]
    rfl
  have herrors := errors_warnings c kind cpus
  generalize c.optionWarnings kind ++ c.sizeWarnings cpus = warnings at hwarnings herrors
  have hbuild : ∀ key, Gun.build kind c.gunOptions = .error (.fault (missing key)) ↔
      (c.lacking kind).head? = some key := by
    intro key
    rw [Gun.build_missing_iff, head?_lacking]
  refine ⟨kind, warnings, c.lacking kind, hkind, hwarnings, ?_, fun key => (hbuild key).trans ?_,
    ?_, c.nodup_lacking kind, fun key => mem_lacking_iff⟩
  · constructor
    · rintro ⟨w, hw, hseverity⟩
      have hmem : w ∈ errors warnings := List.mem_filter.mpr ⟨hw, decide_eq_true hseverity⟩
      rw [herrors] at hmem
      obtain ⟨key, hkey, -⟩ := List.mem_map.mp hmem
      obtain ⟨first, hfirst⟩ := Option.isSome_iff_exists.mp
        (List.isSome_head?.mpr (List.ne_nil_of_mem hkey))
      exact ⟨first, (hbuild first).mpr hfirst⟩
    · rintro ⟨key, hkey⟩
      have hmem : missingOption kind key ∈ errors warnings := by
        rw [herrors]
        exact List.mem_map_of_mem (List.mem_of_head? ((hbuild key).mp hkey))
      exact ⟨missingOption kind key, (List.mem_filter.mp hmem).1, rfl⟩
  · rw [← List.head?_filter, ← errors, herrors, List.head?_map]
    cases (c.lacking kind).head? <;> simp [missingOption_inj]
  · rw [← errors, herrors, List.length_map]

/-- An ultimate gun that is named in another spelling, with one of its three options. -/
def moduleOnly : Config :=
  { Config.initial 1 with
    gunType := " Ultimate_gun "
    gunOptions := .ofList [("module_path", ".")] }

theorem warnings_predict_build_moduleOnly :
    moduleOnly.validate = .ok () ∧
    ∃ (kind : GunKind) (warnings : List Warning) (keys : List String),
      moduleOnly.gunKind = .ok kind ∧ moduleOnly.warnings 1 = .ok warnings ∧
      Gun.build kind moduleOnly.gunOptions =
        .error (.fault (.gunConfig ("Missing key: " ++ "module_name"))) ∧
      warnings.find? (fun w => w.severity = .error) = some (missingOption kind "module_name") ∧
      (warnings.filter fun w => w.severity = .error).length = keys.length ∧ keys.Nodup ∧
      ∀ key, key ∈ keys ↔ Gun.Needs kind key ∧ moduleOnly.gunOptions.contains key = false := by
  have hvalid : moduleOnly.validate = .ok () := ok_of_toOption (by decide +kernel)
  obtain ⟨kind, warnings, keys, hkind, hwarnings, -, hfirst, hlength⟩ :=
    warnings_predict_build hvalid 1
  have hparse : moduleOnly.gunKind = .ok .ultimate := ok_of_toOption (by decide +kernel)
  obtain rfl : kind = .ultimate := Except.ok.inj (hkind.symm.trans hparse)
  have hbuild := (Gun.build_missing_iff moduleOnly.gunOptions .ultimate "module_name").mpr
    (by decide +kernel)
  exact ⟨hvalid, .ultimate, warnings, keys, hkind, hwarnings, hbuild, (hfirst _).mp hbuild,
    hlength⟩

end Config

end Volley
