import Volley.Config.EnvFile
import Volley.Proofs.Options

/-!
# What an environment file sets

A file that is read to its end comes to the assignments of its lines, each set if it is not set yet.
So the environment that was there goes first, and after it the first assignment of the file.

* `Environment.get?_setDefaults`: the value of a variable after defaults were set.
* `load_eq`: the environment that a file leaves.
-/
namespace Volley

namespace Environment

/-- Sets variables that are not set, one after the other. -/
def setDefaults (env : Environment) (pairs : List (String × String)) : Environment :=
  pairs.foldl (fun env (name, value) => env.setDefault name value) env

/-- The value of the last variable with a name. -/
def last? (env : Environment) (name : String) : Option String := Json.lookup? name env.entries

theorem get?_eq_none {env : Environment} {name : String} :
    env.get? name = none ↔ ∀ e ∈ env.entries, e.1 ≠ name := by
  simp [get?]

theorem isSome_last? (env : Environment) (name : String) :
    (env.last? name).isSome = (env.get? name).isSome := by
  have hnone : env.last? name = none ↔ env.get? name = none :=
    Json.lookup?_eq_none.trans get?_eq_none.symm
  cases hl : env.last? name <;> cases hg : env.get? name <;> simp_all

theorem get?_setDefault (env : Environment) (name value other : String) :
    (env.setDefault name value).get? other =
      (env.get? other).or (if name = other then some value else none) := by
  unfold setDefault
  split
  · rename_i hset
    by_cases hname : name = other
    · obtain ⟨v, hv⟩ := Option.isSome_iff_exists.mp hset
      rw [← hname, hv, Option.some_or]
    · rw [if_neg hname, Option.or_none]
  · simp only [get?, List.find?_append, Option.map_or]
    by_cases hname : name = other <;> simp [hname]

theorem last?_setDefault (env : Environment) (name value other : String) :
    (env.setDefault name value).last? other =
      (env.last? other).or (if name = other then some value else none) := by
  unfold setDefault
  split
  · rename_i hset
    by_cases hname : name = other
    · obtain ⟨v, hv⟩ := Option.isSome_iff_exists.mp ((env.isSome_last? name).trans hset)
      rw [← hname, hv, Option.some_or]
    · rw [if_neg hname, Option.or_none]
  · rename_i hunset
    have hnew : (⟨env.entries ++ [(name, value)]⟩ : Environment).last? other =
        (if name = other then some value else none).or (env.last? other) := by
      rw [last?, Json.lookup?_append, Json.lookup?_cons]
      rfl
    rw [hnew]
    by_cases hname : name = other
    · rw [← isSome_last?, hname, Bool.not_eq_true, Option.isSome_eq_false_iff,
        Option.isNone_iff_eq_none] at hunset
      rw [if_pos hname, hunset]
      rfl
    · rw [if_neg hname, Option.none_or, Option.or_none]

/-- A reading of the environment that prefers what is set finds the first of the defaults else. -/
theorem read_setDefaults (read : Environment → Option String) (name : String)
    (hread : ∀ env n value, read (env.setDefault n value) =
      (read env).or (if n = name then some value else none))
    (pairs : List (String × String)) (env : Environment) :
    read (env.setDefaults pairs) = (read env).or (pairs.lookup name) := by
  induction pairs generalizing env with
  | nil => exact Option.or_none.symm
  | cons pair pairs ih =>
    obtain ⟨n, value⟩ := pair
    show read ((env.setDefault n value).setDefaults pairs) = _
    rw [ih, hread, Option.or_assoc, List.lookup_cons]
    by_cases hn : n = name
    · rw [if_pos hn, hn, beq_self_eq_true, Option.some_or]
    · rw [if_neg hn, Option.none_or, beq_false_of_ne (Ne.symm hn)]

theorem mem_setDefaults {e : String × String} (pairs : List (String × String)) {env : Environment}
    (h : e ∈ (env.setDefaults pairs).entries) : e ∈ env.entries ∨ e ∈ pairs := by
  induction pairs generalizing env with
  | nil => exact .inl h
  | cons pair pairs ih =>
    obtain hmem | hmem := @ih (env.setDefault pair.1 pair.2) h
    · unfold setDefault at hmem
      split at hmem
      · exact .inl hmem
      · refine (List.mem_append.mp hmem).imp_right fun hpair => ?_
        rw [List.mem_singleton.mp hpair]
        exact List.mem_cons_self
    · exact .inr (List.mem_cons_of_mem _ hmem)

end Environment

namespace EnvFile

/-- The variable that a line assigns, and its value in an environment. -/
def assignment? (env : Environment) (line : List UInt8) : Option (String × String) :=
  (Text.Utf8.decode? (stripLine line)).bind fun text => (parseLine env text).toOption.join

/-- The assignments of lines, in order. A line can refer to what was set before it. -/
def assigned (env : Environment) : List (List UInt8) → List (String × String)
  | [] => []
  | line :: rest =>
    match assignment? env line with
    | none => assigned env rest
    | some (name, value) => (name, value) :: assigned (env.setDefault name value) rest

/-- The assignments of the file at a path, or of the default one if it is there. -/
def assignedBy (fs : FileSystem) (env : Environment) (path : Option String) :
    List (String × String) :=
  match fs.read (path.getD defaultPath) with
  | .ok bytes => assigned env (Text.splitAfter (· == 10) bytes)
  | .error _ => []

/-- A line that is read assigns nothing, or sets a variable that is not set. -/
theorem applyLine_cases {env env' : Environment} {line : List UInt8}
    (h : applyLine env line = .ok env') :
    (assignment? env line = none ∧ env' = env) ∨
      ∃ name value, assignment? env line = some (name, value) ∧
        env' = env.setDefault name value := by
  unfold applyLine at h
  unfold assignment?
  cases ht : Text.Utf8.decode? (stripLine line) with
  | none =>
    rw [ht] at h
    cases h
  | some text =>
    simp only [ht] at h
    cases hp : parseLine env text with
    | error e =>
      rw [hp] at h
      cases h
    | ok found =>
      rw [hp] at h
      rcases found with _ | ⟨name, value⟩
      · cases h
        exact .inl ⟨by simp [hp, Except.toOption], rfl⟩
      · cases h
        exact .inr ⟨name, value, by simp [hp, Except.toOption], rfl⟩

theorem applyLines_eq {env env' : Environment} {lines : List (List UInt8)} {u : Unit}
    (h : applyLines env lines = (.ok u, env')) : env' = env.setDefaults (assigned env lines) := by
  induction lines generalizing env with
  | nil =>
    cases h
    rfl
  | cons line rest ih =>
    rw [applyLines] at h
    rw [assigned]
    cases hline : applyLine env line with
    | error e =>
      rw [hline] at h
      cases h
    | ok between =>
      rw [hline] at h
      obtain ⟨hnone, rfl⟩ | ⟨name, value, hsome, rfl⟩ := applyLine_cases hline
      · rw [hnone]
        exact ih h
      · rw [hsome]
        exact ih h

/-- The file that was asked for is there, and what it assigns is set where nothing was. -/
theorem load_eq {fs : FileSystem} {env env' : Environment} {path : Option String}
    {file : Option String} (h : load fs env path = (.ok file, env')) :
    env' = env.setDefaults (assignedBy fs env path) := by
  unfold load at h
  unfold assignedBy FileSystem.read
  cases hl : fs.lookup (path.getD defaultPath) with
  | error e =>
    simp only [hl] at h
    split at h
    · cases h
    · cases h
      rfl
  | ok node =>
    cases node with
    | directory =>
      simp only [hl, applyAt, FileSystem.isFile] at h
      cases h
    | file bytes =>
      have hread : fs.read (path.getD defaultPath) = .ok bytes := by
        unfold FileSystem.read
        rw [hl]
        rfl
      simp only [hl, applyAt, FileSystem.isFile, hread, ↓reduceIte] at h
      show env' = env.setDefaults (assigned env (Text.splitAfter (· == 10) bytes))
      cases ha : apply env bytes with
      | mk result left =>
        rw [ha] at h
        cases result with
        | error e => cases h
        | ok u =>
          cases h
          exact applyLines_eq ha

/-- A file that is asked for by its path has to be there. -/
theorem read_of_load {fs : FileSystem} {env env' : Environment} {path : String}
    {file : Option String} (h : load fs env (some path) = (.ok file, env')) :
    ∃ bytes, fs.read path = .ok bytes := by
  unfold load at h
  unfold FileSystem.read
  cases hl : fs.lookup path with
  | error e =>
    simp only [Option.getD_some, hl] at h
    cases h
  | ok node =>
    cases node with
    | directory =>
      simp only [Option.getD_some, hl, applyAt, FileSystem.isFile] at h
      cases h
    | file bytes => exact ⟨bytes, rfl⟩

end EnvFile

end Volley
