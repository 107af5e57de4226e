import Volley.Proofs.Config.Layers

/-!
# Options that the process and the environment file both set

The file sets no variable that the process has. But a variable is known by its exact name, and an
option by that name in lower case: a file that spells the name in another way sets a variable of its
own. It stands behind those of the process, and of the variables for an option the last one counts.

* `Environment.entries_setDefaults`: the environment with what the file adds behind it.
* `get?_mergeOptions_append`: the options of such an environment.
* `option_of_process`: which of the two an option takes its value from.
* `option_overridden`: a file that goes over the process.
-/
namespace Volley

namespace Environment

/-- The variables among some that are added when they are set as defaults: those that are not set,
each with the first value it is given. -/
def added (env : Environment) : List (String × String) → List (String × String)
  | [] => []
  | (name, value) :: rest =>
    if (env.get? name).isSome then env.added rest
    else (name, value) :: (env.setDefault name value).added rest

theorem entries_setDefaults (env : Environment) (pairs : List (String × String)) :
    (env.setDefaults pairs).entries = env.entries ++ env.added pairs := by
  induction pairs generalizing env with
  | nil => exact (List.append_nil _).symm
  | cons pair pairs ih =>
    obtain ⟨name, value⟩ := pair
    show ((env.setDefault name value).setDefaults pairs).entries = _
    rw [ih, added]
    unfold setDefault
    split
    · rfl
    · exact List.append_assoc ..

theorem get?_eq_none_of_setDefault {env : Environment} {name value other : String}
    (h : (env.setDefault name value).get? other = none) : env.get? other = none := by
  rw [get?_setDefault] at h
  exact (Option.or_eq_none_iff.mp h).1

theorem mem_added {env : Environment} {pairs : List (String × String)} {e : String × String}
    (h : e ∈ env.added pairs) : e ∈ pairs ∧ env.get? e.1 = none := by
  induction pairs generalizing env with
  | nil => cases h
  | cons pair pairs ih =>
    obtain ⟨name, value⟩ := pair
    rw [added] at h
    split at h
    · exact (ih h).imp_left (List.mem_cons_of_mem _)
    · rename_i hunset
      rcases List.mem_cons.mp h with rfl | h
      · exact ⟨List.mem_cons_self, Option.not_isSome_iff_eq_none.mp hunset⟩
      · obtain ⟨hmem, hnone⟩ := ih h
        exact ⟨List.mem_cons_of_mem _ hmem, get?_eq_none_of_setDefault hnone⟩

/-- Every variable that is not set is added, if not with this value. -/
theorem exists_mem_added {env : Environment} {pairs : List (String × String)}
    {e : String × String} (h : e ∈ pairs) (hunset : env.get? e.1 = none) :
    ∃ value, (e.1, value) ∈ env.added pairs := by
  induction pairs generalizing env with
  | nil => cases h
  | cons pair pairs ih =>
    obtain ⟨name, value⟩ := pair
    rw [added]
    by_cases hname : name = e.1
    · rw [hname, hunset]
      exact ⟨value, List.mem_cons_self⟩
    · have hrest : e ∈ pairs := (List.mem_cons.mp h).resolve_left fun heq => hname (heq ▸ rfl)
      split
      · exact ih hrest hunset
      · have hnone : (env.setDefault name value).get? e.1 = none := by
          rw [get?_setDefault, hunset, if_neg hname, Option.or_none]
        obtain ⟨first, hmem⟩ := ih hrest hnone
        exact ⟨first, List.mem_cons_of_mem _ hmem⟩

end Environment

namespace Config

/-! ## The variables of an option -/

theorem mem_of_lookup?_optionVariables {env : Environment} {key value : String}
    (h : Json.lookup? key (optionVariables env) = some value) :
    ∃ e ∈ env.entries, optionKey? e.1 = some key ∧ value = e.2 := by
  obtain ⟨e, he, hk⟩ := List.mem_filterMap.mp (Json.mem_of_lookup? h)
  obtain ⟨k, hkey, heq⟩ := Option.map_eq_some_iff.mp hk
  cases heq
  exact ⟨e, he, hkey, rfl⟩

/-- A variable that stands for the option, or a later one, is found. -/
theorem exists_lookup?_optionVariables {env : Environment} {key : String} {e : String × String}
    (he : e ∈ env.entries) (hkey : optionKey? e.1 = some key) :
    ∃ value, Json.lookup? key (optionVariables env) = some value := by
  refine Option.ne_none_iff_exists'.mp fun hnone => ?_
  refine Json.lookup?_eq_none.mp hnone (key, e.2) (List.mem_filterMap.mpr ⟨e, he, ?_⟩) rfl
  show (optionKey? e.1).map _ = _
  rw [hkey]
  rfl

/-- The variables behind go over those before them. -/
theorem get?_mergeOptions_append (c : Config)
    (first later : List (String × String)) (key : String) :
    (mergeOptions ⟨first ++ later⟩ c).gunOptions.get? key =
      (Json.lookup? key (optionVariables ⟨later⟩)).or
        ((mergeOptions ⟨first⟩ c).gunOptions.get? key) := by
  have happend : optionVariables ⟨first ++ later⟩ =
      optionVariables ⟨first⟩ ++ optionVariables ⟨later⟩ := List.filterMap_append ..
  rw [get?_mergeOptions, get?_mergeOptions, happend, Json.lookup?_append, Option.or_assoc]

/-- The settings are no options, so what is merged has the options of the environment. -/
theorem gunOptions_of_mergeEnvironment {env : Environment} {c merged : Config} {u : Unit}
    (h : mergeEnvironment env c = (.ok u, merged)) :
    merged.gunOptions = (mergeOptions env c).gunOptions := by
  unfold mergeEnvironment at h
  cases hs : mergeSettings env assignments c with
  | mk result between =>
  rw [hs] at h
  cases result with
  | error e => cases h
  | ok u =>
    cases h
    rw [mergeOptions, mergeOptions, (settingsLayered_merged hs).2]

/-! ## The process and the file -/

/-- The assignments to variables that stand for an option and are not set. -/
def spellings (env : Environment) (key : String) (pairs : List (String × String)) :
    List (String × String) :=
  pairs.filter fun e => decide (optionKey? e.1 = some key ∧ env.get? e.1 = none)

section
variable {env : Environment} {key : String} {pairs : List (String × String)} {e : String × String}

theorem mem_spellings : e ∈ spellings env key pairs ↔
    e ∈ pairs ∧ optionKey? e.1 = some key ∧ env.get? e.1 = none := by
  rw [spellings, List.mem_filter, decide_eq_true_iff]

theorem mem_spellings_of_added (he : e ∈ env.added pairs) (hkey : optionKey? e.1 = some key) :
    e ∈ spellings env key pairs :=
  have ⟨hpairs, hunset⟩ := Environment.mem_added he
  mem_spellings.mpr ⟨hpairs, hkey, hunset⟩

theorem lookup?_added_eq_none (h : spellings env key pairs = []) :
    Json.lookup? key (optionVariables ⟨env.added pairs⟩) = none := by
  refine Option.eq_none_iff_forall_ne_some.mpr fun value hvalue => ?_
  obtain ⟨e, he, hkey, -⟩ := mem_of_lookup?_optionVariables hvalue
  exact List.not_mem_nil (h ▸ mem_spellings_of_added he hkey)

theorem exists_lookup?_added (h : spellings env key pairs ≠ []) :
    ∃ e ∈ spellings env key pairs,
      Json.lookup? key (optionVariables ⟨env.added pairs⟩) = some e.2 := by
  obtain ⟨g, hg⟩ := List.exists_mem_of_ne_nil _ h
  obtain ⟨hpairs, hkey, hunset⟩ := mem_spellings.mp hg
  -- Another value may have been added under this name, and another spelling behind it.
  obtain ⟨first, hfirst⟩ := Environment.exists_mem_added hpairs hunset
  have hbehind : (g.1, first) ∈ (⟨env.added pairs⟩ : Environment).entries := hfirst
  obtain ⟨value, hvalue⟩ := exists_lookup?_optionVariables hbehind hkey
  obtain ⟨e, he, hkey', rfl⟩ := mem_of_lookup?_optionVariables hvalue
  exact ⟨e, mem_spellings_of_added he hkey', hvalue⟩

end

/-- **An option that the process sets is of the process unless the file spells its name in another
way.** If each variable of the file that stands for the option is set in the process by that very
name, the option is what it is without the file, the value of a variable of the process. If there is
another spelling in the file, the option has the value that the file gives to such a spelling,
although the process sets the option too. -/
theorem option_of_process {fs : FileSystem} {env env' : Environment} {path found : Option String}
    {c merged : Config} {u : Unit} {key : String} {e : String × String}
    (hload : EnvFile.load fs env path = (.ok found, env'))
    (hmerge : mergeEnvironment env' c = (.ok u, merged))
    (he : e ∈ env.entries) (hkey : optionKey? e.1 = some key) :
    let others := spellings env key (EnvFile.assignedBy fs env path)
    (others = [] →
      merged.gunOptions.get? key = (mergeOptions env c).gunOptions.get? key ∧
        ∃ f ∈ env.entries, optionKey? f.1 = some key ∧ merged.gunOptions.get? key = some f.2) ∧
      (others ≠ [] → ∃ f ∈ others, merged.gunOptions.get? key = some f.2) := by
  intro others
  let file := EnvFile.assignedBy fs env path
  have henv : env' = ⟨env.entries ++ env.added file⟩ := by
    rw [EnvFile.load_eq hload, ← env.entries_setDefaults file]
  have hget : merged.gunOptions.get? key =
      (Json.lookup? key (optionVariables ⟨env.added file⟩)).or
        ((mergeOptions env c).gunOptions.get? key) := by
    rw [gunOptions_of_mergeEnvironment hmerge, henv]
    exact get?_mergeOptions_append c env.entries (env.added file) key
  refine ⟨fun hnone => ?_, fun hsome => ?_⟩
  · rw [lookup?_added_eq_none hnone, Option.none_or] at hget
    obtain ⟨value, hvalue⟩ := exists_lookup?_optionVariables he hkey
    obtain ⟨f, hf, hk, rfl⟩ := mem_of_lookup?_optionVariables hvalue
    refine ⟨hget, f, hf, hk, ?_⟩
    rw [hget, get?_mergeOptions, hvalue, Option.some_or]
  · obtain ⟨f, hf, hvalue⟩ := exists_lookup?_added hsome
    refine ⟨f, hf, ?_⟩
    rw [hget, hvalue, Option.some_or]

/-- A process that sets an option, and spells its name in capitals. -/
def capitals : Environment := ⟨[("BFG_OPT_PARAM", "process")]⟩

/-- A file with the same spelling. -/
def sameSpelling : FileSystem :=
  .ofList [(".env", .file (Text.Utf8.bytesOf "BFG_OPT_PARAM=file\n"))]

theorem option_of_process_sameSpelling :
    let merged := (mergeEnvironment capitals (.initial 2)).2
    (EnvFile.load sameSpelling capitals none = (.ok (some ".env"), capitals) ∧
      mergeEnvironment capitals (.initial 2) = (.ok ⟨⟩, merged) ∧
      ("BFG_OPT_PARAM", "process") ∈ capitals.entries ∧
      optionKey? "BFG_OPT_PARAM" = some "param") ∧
    EnvFile.assignedBy sameSpelling capitals none = [("BFG_OPT_PARAM", "file")] ∧
    ∃ f ∈ capitals.entries,
      optionKey? f.1 = some "param" ∧ merged.gunOptions.get? "param" = some f.2 := by
  intro merged
  have hload : EnvFile.load sameSpelling capitals none = (.ok (some ".env"), capitals) :=
    Prod.ext (ok_of_toOption (by decide +kernel)) (by decide +kernel)
  have hmerge : mergeEnvironment capitals (.initial 2) = (.ok ⟨⟩, merged) := by rfl
  have hset : ("BFG_OPT_PARAM", "process") ∈ capitals.entries := List.mem_cons_self
  have hkey : optionKey? "BFG_OPT_PARAM" = some "param" := by decide +kernel
  have hfile : EnvFile.assignedBy sameSpelling capitals none = [("BFG_OPT_PARAM", "file")] := by
    decide +kernel
  have hothers : spellings capitals "param" [("BFG_OPT_PARAM", "file")] = [] := by decide +kernel
  exact ⟨⟨hload, hmerge, hset, hkey⟩, hfile,
    ((option_of_process hload hmerge hset hkey).1 (hfile ▸ hothers)).2⟩

/-- A file with another spelling. -/
def otherSpelling : FileSystem :=
  .ofList [(".env", .file (Text.Utf8.bytesOf "BFG_OPT_param=file\n"))]

/-- With the other spelling in the file, the option that the process sets is not of the process. -/
theorem option_overridden :
    let loaded := EnvFile.load otherSpelling capitals none
    let merged := mergeEnvironment loaded.2 (.initial 2)
    loaded.1.toOption = some (some ".env") ∧ merged.1.toOption = some ⟨⟩ ∧
      (∃ f ∈ capitals.entries, optionKey? f.1 = some "param") ∧
      merged.2.gunOptions.get? "param" = some "file" ∧ ∀ f ∈ capitals.entries, f.2 ≠ "file" := by
  decide +kernel

end Config

end Volley
