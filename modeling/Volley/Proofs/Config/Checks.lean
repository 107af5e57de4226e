import Volley.Config.Variables
import Volley.Proofs.Numeral.Integer
import Volley.Proofs.Text.Blank

/-!
# The two checks of a variable

A variable can be checked by itself, and it is checked once more when a configuration with it is
validated. The two were written apart; they take the same texts, except for a zero count of loops
that is not written as one digit.

* `Startable`: what `validate` asks for.
* `mergeSettings_single`: one variable alone is put in by its own assignment.
* `parseLoops_eq_zero_iff`: which texts stand for no loop at all.
* `checks_agree`: the two checks, for each variable that has both.
* `doubleZero_passes_one_check`: a text that only one of them takes.
-/
namespace Volley.Config

/-! ## Configurations that a run can start from -/

/-- Nothing is wrong with the configuration. -/
structure Startable (c : Config) : Prop where
  kind : ∃ kind, GunKind.parse c.gunType = .ok kind
  format : ∃ format, AmmoFormat.parse c.ammoFormat = .ok format
  ammoFile : c.ammoFile ≠ ""
  phoutFile : c.phoutFile ≠ ""
  workers : 0 < c.workers ∧ c.workers ≤ maxWorkers
  resultsCapacity : 0 < c.resultsCapacity
  loops : c.loops ≠ some 0
  base : GunKind.parse c.gunType = .ok .http →
    ∀ base, c.gunOptions.get? "base_address" = some base →
      ∃ address, Url.Address.parse base = .ok address

theorem demand_eq_ok_iff {holds : Bool} {message : String} {u : Unit} :
    demand holds message = .ok u ↔ holds = true := by
  cases holds <;> simp [demand]

theorem bind_eq_ok_iff {α β : Type} {x : Except Fault α} {f : α → Except Fault β} {b : β} :
    (x >>= f) = .ok b ↔ ∃ a, x = .ok a ∧ f a = .ok b := by
  cases x <;> simp [bind, Except.bind]

/-- Only the base address of HTTP guns is looked at. -/
theorem checkBase_eq_ok_iff {c : Config} {kind : GunKind} : c.checkBase kind = .ok () ↔
    (kind = .http → ∀ base, c.gunOptions.get? "base_address" = some base →
      ∃ address, Url.Address.parse base = .ok address) := by
  cases kind with
  | http =>
    unfold checkBase
    cases c.gunOptions.get? "base_address" with
    | none => simp
    | some base => cases hparse : Url.Address.parse base <;> simp [hparse]
  | _ => simp [checkBase]

theorem validate_eq_ok_iff (c : Config) : c.validate = .ok () ↔ c.Startable := by
  simp only [validate, gunKind, format, bind_eq_ok_iff, demand_eq_ok_iff, checkBase_eq_ok_iff]
  constructor
  · rintro ⟨kind, hkind, format, hformat, -, hammo, -, hphout, -, hsome, -, hmost, -, hroom, -,
      hloops, hbase⟩
    have hhttp : GunKind.parse c.gunType = .ok .http → kind = .http := by
      intro h
      exact Except.ok.inj (hkind.symm.trans h)
    exact ⟨⟨kind, hkind⟩, ⟨format, hformat⟩, by simpa using hammo, by simpa using hphout,
      ⟨Nat.pos_of_ne_zero (by simpa using hsome), by simpa using hmost⟩,
      Nat.pos_of_ne_zero (by simpa using hroom), by simpa using hloops, fun h => hbase (hhttp h)⟩
  · rintro ⟨⟨kind, hkind⟩, ⟨format, hformat⟩, hammo, hphout, hworkers, hroom, hloops, hbase⟩
    refine ⟨kind, hkind, format, hformat, (), by simpa using hammo, (), by simpa using hphout, (),
      ?_, (), by simpa using hworkers.2, (), ?_, (), by simpa using hloops, fun h => ?_⟩
    · simpa using Nat.ne_of_gt hworkers.1
    · simpa using Nat.ne_of_gt hroom
    · subst h
      exact hbase hkind

/-- Without options there is no base address. -/
theorem base_of_empty {c : Config} (h : c.gunOptions = .empty) (base : String)
    (hbase : c.gunOptions.get? "base_address" = some base) :
    ∃ address, Url.Address.parse base = .ok address := by
  rw [h] at hbase
  cases hbase

/-- There is a worker for each processor, and at least one. -/
theorem initial_workers {cpus : Nat} : 0 < (initial cpus).workers ∧
    (initial cpus).workers ≤ maxWorkers ↔ cpus ≤ maxWorkers := by
  show 0 < max cpus 1 ∧ max cpus 1 ≤ 4096 ↔ cpus ≤ 4096
  omega

theorem startable_initial {cpus : Nat} (h : cpus ≤ maxWorkers) : (initial cpus).Startable where
  kind :=
    have hlog : (GunKind.parse "log").toOption = some .log := by decide
    ⟨.log, ok_of_toOption hlog⟩
  format :=
    have hline : (AmmoFormat.parse AmmoFormat.line.name).toOption = some .line := by decide
    ⟨.line, ok_of_toOption hline⟩
  ammoFile := by show "ammo.txt" ≠ ""; decide
  phoutFile := by show "phout.txt" ≠ ""; decide
  workers := initial_workers.mpr h
  resultsCapacity := by show 0 < 10000; decide
  loops := by show some 1 ≠ some 0; decide
  base _ := base_of_empty rfl

/-! ## One variable -/

/-- A variable that stands alone is put in by the assignment for it. -/
theorem mergeSettings_single (name value : String)
    {settings : List (String × (String → Config → Except Fault Config))}
    (hnodup : (settings.map (·.1)).Nodup) (c : Config) :
    mergeSettings ⟨[(name, value)]⟩ settings c = match settings.lookup name with
      | some assign => match assign value c with
        | .ok merged => (.ok (), merged)
        | .error e => (.error e, c)
      | none => (.ok (), c) := by
  induction settings generalizing c with
  | nil => rfl
  | cons setting settings ih =>
    obtain ⟨n, assign⟩ := setting
    obtain ⟨hfresh, hrest⟩ := List.nodup_cons.mp hnodup
    by_cases hn : name = n
    · subst hn
      have hset : (Environment.mk [(name, value)]).get? name = some value := by
        simp [Environment.get?]
      have hgone : settings.lookup name = none := by
        rw [List.lookup_eq_none_iff]
        intro p hp
        exact bne_iff_ne.mpr fun h => hfresh (List.mem_map.mpr ⟨p, hp, h.symm⟩)
      simp only [mergeSettings, mergeVariable, hset, List.lookup_cons_self]
      cases assign value c with
      | error e => rfl
      | ok merged =>
        dsimp only
        rw [ih hrest, hgone]
    · have hunset : (Environment.mk [(name, value)]).get? n = none := by
        simp [Environment.get?, hn]
      simp only [mergeSettings, mergeVariable, hunset, List.lookup_cons, beq_false_of_ne hn]
      exact ih hrest c

/-! ## The two checks -/

/-- Puts one variable into the initial configuration and looks whether a run can start from it. -/
def checkMerged (cpus : Nat) (name value : String) : Except Fault Unit :=
  match mergeEnvironment ⟨[(name, value)]⟩ (initial cpus) with
  | (.ok _, c) => c.validate
  | (.error e, _) => .error e

theorem checkMerged_eq {name : String} {assign : String → Config → Except Fault Config}
    (hassign : assignments.lookup name = some assign) (hoption : optionKey? name = none)
    (cpus : Nat) (value : String) :
    checkMerged cpus name value = assign value (initial cpus) >>= validate := by
  have hoptions : optionVariables ⟨[(name, value)]⟩ = [] := by
    simp [optionVariables, hoption]
  have hkeep : ∀ c, mergeOptions ⟨[(name, value)]⟩ c = c := by
    intro c
    rw [mergeOptions, hoptions]
    rfl
  rw [checkMerged, mergeEnvironment, mergeSettings_single name value (by decide), hassign]
  dsimp only
  cases assign value (initial cpus) with
  | error e => rfl
  | ok c => simp only [hkeep, bind, Except.bind]

/-- The variables that have a check of their own and a part in the validation. -/
def checkedTwice : List String :=
  ["BFG_GUN_TYPE", "BFG_AMMO_FORMAT", "BFG_LOOPS", "BFG_WORKERS", "BFG_RESULTS_CAPACITY",
    "BFG_ENABLE_COLOR"]

theorem optionKey?_of_mem_checkedTwice : ∀ name ∈ checkedTwice, optionKey? name = none := by
  decide

/-- The merged configuration is what the assignment makes of the initial one, and a run can start
from it. -/
theorem checkMerged_eq_ok_iff {name : String} {assign : String → Config → Except Fault Config}
    (hmem : name ∈ checkedTwice) (hassign : assignments.lookup name = some assign)
    (cpus : Nat) (value : String) : checkMerged cpus name value = .ok () ↔
      ∃ c, assign value (initial cpus) = .ok c ∧ c.Startable := by
  rw [checkMerged_eq hassign (optionKey?_of_mem_checkedTwice name hmem), bind_eq_ok_iff]
  simp only [validate_eq_ok_iff]

/-- A zero that is written with a sign or with more than one digit. -/
def SpelledZero (value : String) : Prop :=
  ∃ n, Text.lower (Text.trim value.toList) = List.replicate (n + 2) '0' ∨
    Text.lower (Text.trim value.toList) = '+' :: List.replicate (n + 1) '0'

theorem parseLoops_trimmed (value : String) :
    parseLoops (Text.trimmed value) = parseLoops value := by
  simp only [parseLoops, Text.trimmed, String.toList_ofList, Text.trim_trim]

/-- The count of loops is zero only where a zero is not written as one digit. -/
theorem parseLoops_eq_zero_iff {value : String} :
    parseLoops value = .ok (some 0) ↔ SpelledZero value := by
  unfold parseLoops SpelledZero
  generalize Text.lower (Text.trim value.toList) = s
  dsimp only
  split
  · rename_i h
    refine iff_of_false nofun ?_
    rintro ⟨n, hzeros⟩
    have hnamed : s = ['0'] ∨ s = "inf".toList ∨ s = "infinite".toList := by
      simpa [or_assoc] using h
    rcases hnamed with rfl | rfl | rfl <;> simp [List.replicate_succ] at hzeros
  · rename_i h
    have hone : s ≠ ['0'] := by
      rintro rfl
      exact h rfl
    have hmap : (Numeral.parseNat Numeral.maxU64 s).map some = .ok (some 0) ↔
        Numeral.parseNat Numeral.maxU64 s = .ok 0 := by
      cases Numeral.parseNat Numeral.maxU64 s <;> simp [Except.map]
    rw [hmap, Numeral.parseNat_eq_zero_iff]
    constructor
    · rintro ⟨n, rfl | rfl⟩
      · cases n with
        | zero => exact absurd rfl hone
        | succ n => exact ⟨n, .inl rfl⟩
      · exact ⟨n, .inr rfl⟩
    · rintro ⟨n, rfl | rfl⟩
      · exact ⟨n + 1, .inl rfl⟩
      · exact ⟨n, .inr rfl⟩

section
variable {cpus : Nat} {value : String}

theorem gunType_agrees : checkMerged cpus "BFG_GUN_TYPE" value = .ok () ↔
    checkVariable "BFG_GUN_TYPE" value = .ok () ∧ cpus ≤ maxWorkers := by
  have hcheck : checkVariable "BFG_GUN_TYPE" value = .ok () ↔
      ∃ kind, GunKind.parse (Text.trimmed value) = .ok kind := by
    show (GunKind.parse (Text.trimmed value)).map (fun _ => ()) = .ok () ↔ _
    cases GunKind.parse (Text.trimmed value) <;> simp [Except.map]
  rw [checkMerged_eq_ok_iff (by decide) rfl, hcheck]
  constructor
  · rintro ⟨c, hc, hs⟩
    cases hc
    exact ⟨hs.kind, initial_workers.mp hs.workers⟩
  · rintro ⟨hkind, hcpus⟩
    exact ⟨_, rfl, { startable_initial hcpus with
      kind := hkind
      base := fun _ => base_of_empty rfl }⟩

theorem ammoFormat_agrees : checkMerged cpus "BFG_AMMO_FORMAT" value = .ok () ↔
    checkVariable "BFG_AMMO_FORMAT" value = .ok () ∧ cpus ≤ maxWorkers := by
  have hcheck : checkVariable "BFG_AMMO_FORMAT" value = .ok () ↔
      ∃ format, AmmoFormat.parse (Text.trimmed value) = .ok format := by
    show (AmmoFormat.parse (Text.trimmed value)).map (fun _ => ()) = .ok () ↔ _
    cases AmmoFormat.parse (Text.trimmed value) <;> simp [Except.map]
  rw [checkMerged_eq_ok_iff (by decide) rfl, hcheck]
  constructor
  · rintro ⟨c, hc, hs⟩
    cases hc
    exact ⟨hs.format, initial_workers.mp hs.workers⟩
  · rintro ⟨hformat, hcpus⟩
    exact ⟨_, rfl, { startable_initial hcpus with format := hformat }⟩

theorem checkVariable_loops : checkVariable "BFG_LOOPS" value = .ok () ↔
    ∃ loops, parseLoops value = .ok loops := by
  unfold checkVariable checkTrimmed
  rw [parseLoops_trimmed]
  cases parseLoops value <;> simp

theorem loops_agree : checkMerged cpus "BFG_LOOPS" value = .ok () ↔
    checkVariable "BFG_LOOPS" value = .ok () ∧ ¬ SpelledZero value ∧ cpus ≤ maxWorkers := by
  rw [checkMerged_eq_ok_iff (by decide) rfl, checkVariable_loops, ← parseLoops_eq_zero_iff]
  unfold assignLoops
  cases parseLoops value with
  | error e => simp
  | ok loops =>
    constructor
    · rintro ⟨c, hc, hs⟩
      cases hc
      exact ⟨⟨loops, rfl⟩, fun h => hs.loops (Except.ok.inj h), initial_workers.mp hs.workers⟩
    · rintro ⟨-, hloops, hcpus⟩
      exact ⟨_, rfl, { startable_initial hcpus with
        loops := fun h => hloops (congrArg Except.ok h) }⟩

/-- A count is looked at in the text without its blank ends. -/
theorem checkCount_trimmed {name : String} {check : Nat → Except Fault Unit} :
    (checkCount name (Text.trimmed value) >>= check) = .ok () ↔
      ∃ n, Numeral.parseNat Numeral.maxU64 (Text.trim value.toList) = .ok n ∧ check n = .ok () := by
  rw [bind_eq_ok_iff]
  unfold checkCount
  rw [Text.trimmed, String.toList_ofList]
  cases Numeral.parseNat Numeral.maxU64 (Text.trim value.toList) <;> simp

theorem workers_agree : checkMerged cpus "BFG_WORKERS" value = .ok () ↔
    checkVariable "BFG_WORKERS" value = .ok () := by
  have hcheck : checkVariable "BFG_WORKERS" value = .ok () ↔
      ∃ n, Numeral.parseNat Numeral.maxU64 (Text.trim value.toList) = .ok n ∧
        0 < n ∧ n ≤ maxWorkers := by
    show (checkCount "BFG_WORKERS" (Text.trimmed value) >>= fun n =>
      demand (n != 0 && n ≤ maxWorkers) _) = .ok () ↔ _
    rw [checkCount_trimmed]
    simp [demand_eq_ok_iff, Nat.pos_iff_ne_zero]
  rw [checkMerged_eq_ok_iff (by decide) rfl, hcheck]
  unfold assignWorkers
  cases Numeral.parseNat Numeral.maxU64 (Text.trim value.toList) with
  | error e => simp
  | ok n =>
    constructor
    · rintro ⟨c, hc, hs⟩
      cases hc
      exact ⟨n, rfl, hs.workers⟩
    · rintro ⟨_, hn, hworkers⟩
      cases hn
      -- The number of processors does not matter: its place is taken.
      exact ⟨_, rfl, { startable_initial (Nat.zero_le maxWorkers) with workers := hworkers }⟩

theorem resultsCapacity_agrees : checkMerged cpus "BFG_RESULTS_CAPACITY" value = .ok () ↔
    checkVariable "BFG_RESULTS_CAPACITY" value = .ok () ∧ cpus ≤ maxWorkers := by
  have hcheck : checkVariable "BFG_RESULTS_CAPACITY" value = .ok () ↔
      ∃ n, Numeral.parseNat Numeral.maxU64 (Text.trim value.toList) = .ok n ∧ 0 < n := by
    show (checkCount "BFG_RESULTS_CAPACITY" (Text.trimmed value) >>= fun n =>
      demand (n != 0) _) = .ok () ↔ _
    rw [checkCount_trimmed]
    simp [demand_eq_ok_iff, Nat.pos_iff_ne_zero]
  rw [checkMerged_eq_ok_iff (by decide) rfl, hcheck]
  unfold assignCapacity
  cases Numeral.parseNat Numeral.maxU64 (Text.trim value.toList) with
  | error e => simp
  | ok n =>
    constructor
    · rintro ⟨c, hc, hs⟩
      cases hc
      exact ⟨⟨n, rfl, hs.resultsCapacity⟩, initial_workers.mp hs.workers⟩
    · rintro ⟨⟨_, hn, hroom⟩, hcpus⟩
      cases hn
      exact ⟨_, rfl, { startable_initial hcpus with resultsCapacity := hroom }⟩

theorem enableColor_agrees : checkMerged cpus "BFG_ENABLE_COLOR" value = .ok () ↔
    checkVariable "BFG_ENABLE_COLOR" value = .ok () ∧ cpus ≤ maxWorkers := by
  have hcheck : checkVariable "BFG_ENABLE_COLOR" value = .ok () ↔
      ∃ color, Reading.bool (Text.trimmed value) = .ok color := by
    unfold checkVariable checkTrimmed
    cases Reading.bool (Text.trimmed value) <;> simp
  rw [checkMerged_eq_ok_iff (by decide) rfl, hcheck]
  unfold assignColor
  cases Reading.bool (Text.trimmed value) with
  | error e => simp
  | ok color =>
    constructor
    · rintro ⟨c, hc, hs⟩
      cases hc
      exact ⟨⟨color, rfl⟩, initial_workers.mp hs.workers⟩
    · rintro ⟨-, hcpus⟩
      exact ⟨_, rfl, { startable_initial hcpus with }⟩

end

/-- **The two checks agree, zero loops apart.** On a machine with no more processors than there may
be workers, or for the variable that sets the workers, the check of a variable takes a value exactly
if a run can start from the initial configuration with that variable in it. The only exception is a
zero for the loops that is not written as one digit: the check takes it, and the configuration asks
for no loop at all. -/
theorem checks_agree {name : String} (h : name ∈ checkedTwice) (value : String) (cpus : Nat) :
    (checkMerged cpus name value = .ok () ↔ checkVariable name value = .ok () ∧
      ¬ (name = "BFG_LOOPS" ∧ SpelledZero value) ∧ (name = "BFG_WORKERS" ∨ cpus ≤ maxWorkers)) ∧
    (name = "BFG_LOOPS" → SpelledZero value → checkVariable name value = .ok ()) := by
  have hzero : SpelledZero value → checkVariable "BFG_LOOPS" value = .ok () := fun hspelled =>
    checkVariable_loops.mpr ⟨some 0, parseLoops_eq_zero_iff.mpr hspelled⟩
  simp only [checkedTwice, List.mem_cons, List.not_mem_nil, or_false] at h
  rcases h with rfl | rfl | rfl | rfl | rfl | rfl
  · rw [gunType_agrees]
    simp
  · rw [ammoFormat_agrees]
    simp
  · rw [loops_agree]
    simpa using hzero
  · rw [workers_agree]
    simp
  · rw [resultsCapacity_agrees]
    simp
  · rw [enableColor_agrees]
    simp

/-- Eight workers, with a sign and blanks around them, on a machine with too many processors. -/
theorem checks_agree_workers : "BFG_WORKERS" ∈ checkedTwice ∧
    checkVariable "BFG_WORKERS" " +08 " = .ok () ∧
    checkMerged 8192 "BFG_WORKERS" " +08 " = .ok () := by
  have hmem : "BFG_WORKERS" ∈ checkedTwice := by decide
  have hcheck : checkVariable "BFG_WORKERS" " +08 " = .ok () :=
    ok_of_toOption (by decide +kernel)
  obtain ⟨hagree, -⟩ := checks_agree hmem " +08 " 8192
  exact ⟨hmem, hcheck, hagree.mpr ⟨hcheck, fun h => absurd h.1 (by decide), .inl rfl⟩⟩

/-- A zero of two digits passes the check of the variable, and no run starts from it. -/
theorem doubleZero_passes_one_check : "BFG_LOOPS" ∈ checkedTwice ∧
    checkVariable "BFG_LOOPS" "00" = .ok () ∧ checkMerged 1 "BFG_LOOPS" "00" ≠ .ok () := by
  refine ⟨by decide, ok_of_toOption (by decide +kernel), fun hok => ?_⟩
  have hnone : (checkMerged 1 "BFG_LOOPS" "00").toOption = none := by decide +kernel
  rw [hok] at hnone
  cases hnone

end Volley.Config
