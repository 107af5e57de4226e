import Mathlib.Data.List.Nodup
import Volley.Config.Json
import Volley.Proofs.Options

/-!
# Configurations are read back

A configuration is written as an object with a member for each setting. What is read of the object
is the configuration, also after members were taken out, put in another order, or added under names
that are no settings: a setting that was taken out has its initial value, and null is a value of its
own.

* `LeftOf`: what may be left of the members.
* `LeftOf.read`: one setting, whatever it is read as.
* `members_read_back`: all settings.
-/
namespace Volley.Config

variable {c : Config} {removed : List String} {members : List (String × Json)}

/-! ## Members -/

theorem keys_members (c : Config) : c.members.map (·.1) = keys := rfl

theorem nodup_keys : keys.Nodup := by decide

theorem filter_key_of_mem {α : Type} {entries : List (String × α)}
    (hnodup : (entries.map (·.1)).Nodup) {key : String} {value : α} (h : (key, value) ∈ entries) :
    entries.filter (·.1 == key) = [(key, value)] := by
  induction entries with
  | nil => cases h
  | cons e entries ih =>
    obtain ⟨hfresh, hrest⟩ := List.nodup_cons.mp hnodup
    rcases List.mem_cons.mp h with rfl | hmem
    · have hnone : entries.filter (·.1 == key) = [] := by
        refine List.filter_eq_nil_iff.mpr fun e' he' heq => hfresh ?_
        exact List.mem_map.mpr ⟨e', he', by simpa using heq⟩
      simp [hnone]
    · have hne : e.1 ≠ key := fun heq =>
        hfresh (List.mem_map.mpr ⟨(key, value), hmem, heq.symm⟩)
      simp [hne, ih hrest hmem]

/-- What may be left of the members of a configuration: some settings are taken out, the others are
there in any order, and members of any other names are among them. -/
def LeftOf (c : Config) (removed : List String) (members : List (String × Json)) : Prop :=
  (members.filter fun e => keys.contains e.1).Perm
    (c.members.filter fun e => !removed.contains e.1)

theorem leftOf_members (c : Config) : LeftOf c [] c.members := by
  have hkept : (c.members.filter fun e => keys.contains e.1) = c.members := rfl
  rw [LeftOf, hkept]
  simp

/-- A setting is read as the one at its place was written, or has its default. -/
theorem LeftOf.read (h : LeftOf c removed members) (i : Nat) {key : String} {j : Json}
    (hj : c.members[i]? = some (key, j)) {α : Type} {reader : Json → Option α} {fallback value : α}
    (hread : reader j = some value) :
    (settingIn members key).read fallback reader =
      some (if key ∈ removed then fallback else value) := by
  have hmem : (key, j) ∈ c.members := List.mem_of_getElem? hj
  have hkey : key ∈ keys := keys_members c ▸ List.mem_map.mpr ⟨(key, j), hmem, rfl⟩
  have honly := filter_key_of_mem (keys_members c ▸ nodup_keys) hmem
  have hperm := h.filter (·.1 == key)
  have hleft : (members.filter fun e => keys.contains e.1).filter (·.1 == key) =
      members.filter (·.1 == key) := by
    rw [List.filter_filter]
    refine List.filter_congr fun e _ => ?_
    by_cases heq : e.1 = key <;> simp [heq, hkey]
  have hright : (c.members.filter fun e => !removed.contains e.1).filter (·.1 == key) =
      [(key, j)].filter fun e => !removed.contains e.1 := by
    rw [← honly, List.filter_filter, List.filter_filter]
    exact List.filter_congr fun e _ => Bool.and_comm _ _
  rw [hleft, hright] at hperm
  unfold settingIn
  by_cases hremoved : key ∈ removed
  · have hnone : members.filter (·.1 == key) = [] := by simpa [hremoved] using hperm
    simp [hnone, hremoved, Setting.read]
  · have hone : members.filter (·.1 == key) = [(key, j)] := by simpa [hremoved] using hperm
    simp [hone, hremoved, Setting.read, hread]

/-! ## Values -/

theorem optional?_optionalJson {α : Type} {write : α → Json} {reader : Json → Option α}
    (hnull : ∀ a, write a ≠ .null) (hread : ∀ a, reader (write a) = some a) (o : Option α) :
    optional? reader (optionalJson write o) = some o := by
  cases o with
  | none => rfl
  | some a =>
    have hvalue : optional? reader (write a) = (reader (write a)).map some := by
      have hne := hnull a
      cases hj : write a with
      | null => exact absurd hj hne
      | _ => rfl
    rw [optionalJson, hvalue, hread, Option.map_some]

theorem asNat?_ofNat (n : Nat) : Json.asNat? (.ofNat n) = some n := by
  simp [Json.asNat?, Json.ofNat, Json.Number.asNat?]

theorem mapM_option? (entries : List (String × String)) :
    (entries.map fun (k, v) => (k, Json.string v)).mapM option? = some entries := by
  induction entries with
  | nil => rfl
  | cons e entries ih => simp [ih, option?, Json.asString?]

theorem options?_entries (o : Options) :
    options? (.object (o.entries.map fun (k, v) => (k, .string v))) = some o := by
  rw [options?, mapM_option?, Option.map_some, Options.ofList_entries]

/-! ## Configurations -/

/-- The configuration with some of its settings as they are in another one. -/
def reset (c initial : Config) (removed : List String) : Config where
  gunType := if "gun_type" ∈ removed then initial.gunType else c.gunType
  ammoFile := if "ammo_file" ∈ removed then initial.ammoFile else c.ammoFile
  ammoFormat := if "ammo_format" ∈ removed then initial.ammoFormat else c.ammoFormat
  loops := if "loops" ∈ removed then initial.loops else c.loops
  workers := if "workers" ∈ removed then initial.workers else c.workers
  resultsCapacity :=
    if "results_capacity" ∈ removed then initial.resultsCapacity else c.resultsCapacity
  phoutFile := if "phout_file" ∈ removed then initial.phoutFile else c.phoutFile
  gunOptions := if "gun_options" ∈ removed then initial.gunOptions else c.gunOptions
  logLevel := if "log_level" ∈ removed then initial.logLevel else c.logLevel
  logFormat := if "log_format" ∈ removed then initial.logFormat else c.logFormat
  enableColor := if "enable_color" ∈ removed then initial.enableColor else c.enableColor
  verbose := if "verbose" ∈ removed then initial.verbose else c.verbose
  debug := if "debug" ∈ removed then initial.debug else c.debug

section

variable (cpus : Nat) (h : LeftOf c removed members)
include h

theorem ofJson?_of_leftOf :
    ofJson? cpus (.object members) = some (c.reset (initial cpus) removed) := by
  have htext (o : Option String) : optional? Json.asString? (optionalJson .string o) = some o :=
    optional?_optionalJson (by simp) (by simp [Json.asString?]) o
  have hcount (o : Option Nat) : optional? Json.asNat? (optionalJson .ofNat o) = some o :=
    optional?_optionalJson (by simp [Json.ofNat]) asNat?_ofNat o
  have hgunType : (settingIn members "gun_type").read defaultGunType Json.asString? =
      some (c.reset (initial cpus) removed).gunType :=
    h.read 0 rfl rfl
  have hammoFile : (settingIn members "ammo_file").read defaultAmmoFile Json.asString? =
      some (c.reset (initial cpus) removed).ammoFile :=
    h.read 1 rfl rfl
  have hammoFormat :
      (settingIn members "ammo_format").read defaultAmmoFormat Json.asString? =
        some (c.reset (initial cpus) removed).ammoFormat :=
    h.read 2 rfl rfl
  have hloops :
      (settingIn members "loops").read defaultLoops (optional? Json.asNat?) =
        some (c.reset (initial cpus) removed).loops :=
    h.read 3 rfl (hcount _)
  have hworkers : (settingIn members "workers").read (defaultWorkers cpus) Json.asNat? =
      some (c.reset (initial cpus) removed).workers :=
    h.read 4 rfl (asNat?_ofNat _)
  have hcapacity :
      (settingIn members "results_capacity").read defaultCapacity Json.asNat? =
        some (c.reset (initial cpus) removed).resultsCapacity :=
    h.read 5 rfl (asNat?_ofNat _)
  have hphoutFile : (settingIn members "phout_file").read defaultPhoutFile Json.asString? =
      some (c.reset (initial cpus) removed).phoutFile :=
    h.read 6 rfl rfl
  have hgunOptions : (settingIn members "gun_options").read .empty options? =
      some (c.reset (initial cpus) removed).gunOptions :=
    h.read 7 rfl (options?_entries _)
  have hlogLevel : (settingIn members "log_level").read none (optional? Json.asString?) =
      some (c.reset (initial cpus) removed).logLevel := h.read 8 rfl (htext _)
  have hlogFormat : (settingIn members "log_format").read none (optional? Json.asString?) =
      some (c.reset (initial cpus) removed).logFormat := h.read 9 rfl (htext _)
  have henableColor : (settingIn members "enable_color").read defaultColor bool? =
      some (c.reset (initial cpus) removed).enableColor :=
    h.read 10 rfl rfl
  have hverbose : (settingIn members "verbose").read false bool? =
      some (c.reset (initial cpus) removed).verbose :=
    h.read 11 rfl rfl
  have hdebug : (settingIn members "debug").read false bool? =
      some (c.reset (initial cpus) removed).debug :=
    h.read 12 rfl rfl
  simp only [ofJson?, ofSettings?, hgunType, hammoFile, hammoFormat, hloops, hworkers, hcapacity,
    hphoutFile, hgunOptions, hlogLevel, hlogFormat, henableColor, hverbose, hdebug,
    Option.bind_eq_bind, Option.bind_some]
  rfl

/-- A setting that is kept stands among the members as it was written. -/
theorem LeftOf.mem {key : String} {j : Json} (hj : (key, j) ∈ c.members) (hkept : key ∉ removed) :
    (key, j) ∈ members := by
  have hleft : (key, j) ∈ c.members.filter fun e => !removed.contains e.1 := by
    simp [hj, hkept]
  exact (List.mem_filter.mp (h.mem_iff.mpr hleft)).1

/-- A setting that was taken out is not there at all. -/
theorem LeftOf.not_mem {key : String} (hkey : key ∈ keys) (hremoved : key ∈ removed) (j : Json) :
    (key, j) ∉ members := by
  intro hmem
  have hknown : (key, j) ∈ members.filter fun e => keys.contains e.1 := by simp [hmem, hkey]
  have hleft := (List.mem_filter.mp (h.mem_iff.mp hknown)).2
  simp [hremoved] at hleft

end

theorem reset_nil (c initial : Config) : c.reset initial [] = c := by
  simp [reset]

/-- A configuration is read back from its members, and from any text that is read as these. Those
that were taken out give the settings of the initial one, whatever else was added; without a number
of loops the member is null, which is not the same as no member. -/
theorem members_read_back (cpus : Nat) (h : LeftOf c removed members) :
    ofJson? cpus (.object members) = some (c.reset (initial cpus) removed) ∧
      (∀ text, Json.parse text = .ok (.object members) →
        ofText? cpus text = some (c.reset (initial cpus) removed)) ∧
      ofJson? cpus c.toJson = some c ∧
      (c.loops = none → "loops" ∉ removed →
        ("loops", .null) ∈ members ∧ (c.reset (initial cpus) removed).loops = none) ∧
      ("loops" ∈ removed → (∀ j, ("loops", j) ∉ members) ∧
        (c.reset (initial cpus) removed).loops = some 1) := by
  have hread := ofJson?_of_leftOf cpus h
  refine ⟨hread, ?_, ?_, ?_, ?_⟩
  · intro text hparsed
    rw [ofText?, hparsed]
    exact hread
  · have hwhole := ofJson?_of_leftOf cpus (leftOf_members c)
    rwa [reset_nil] at hwhole
  · intro hendless hkept
    have hnull : ("loops", Json.null) ∈ c.members := by simp [Config.members, hendless, optionalJson]
    exact ⟨h.mem hnull hkept, by simp [reset, hkept, hendless]⟩
  · intro hremoved
    exact ⟨h.not_mem (by decide) hremoved, by simp [reset, hremoved, initial, defaultLoops]⟩

/-- A configuration with options that runs until it is stopped. -/
def endless : Config :=
  { initial 8 with gunType := "http", loops := none, debug := true,
                   gunOptions := .ofList [("timeout", "2"), ("base_address", "http://h/")] }

theorem members_read_back_endless :
    let left := (endless.members.filter fun e => !(["gun_type", "workers"].contains e.1)).reverse
    ofJson? 4 (.object (("color", .bool false) :: left)) =
        some { endless with gunType := "log", workers := 4 } ∧
      ofJson? 4 endless.toJson = some endless ∧ ("loops", .null) ∈ left := by
  intro left
  have hleft : LeftOf endless ["gun_type", "workers"] (("color", .bool false) :: left) := by
    have hknown : ((("color", Json.bool false) :: left).filter fun e => keys.contains e.1) = left :=
      rfl
    rw [LeftOf, hknown]
    exact List.reverse_perm _
  obtain ⟨hread, -, hwhole, hnull, -⟩ := members_read_back 4 hleft
  refine ⟨hread, hwhole, ?_⟩
  have hmem := (hnull rfl (by decide)).1
  simpa using hmem

end Volley.Config
