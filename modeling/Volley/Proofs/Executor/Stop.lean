import Volley.Proofs.Executor.Pool

/-!
# The stop signal

A worker looks at the stop signal right before it pulls a missile. So when the signal is raised, only
those workers still pull that have looked already, each of them once; all finish the shot they are
at, and go. The supply may have no end.

* `pulls_step`, `pulls_run`: every pull under a raised signal uses up one worker that was about to.
* `stepsLeft_step`, `stepsLeft_run`: a worker is gone after four steps of its own, whatever the others
  do meanwhile.
* `stop_bounds_fire`: what is still pulled, and that all that was pulled is fired and counted once.
-/
namespace Volley

namespace Worker

/-- The worker has looked at the signal and is about to pull. -/
def isPulling : Worker → Bool
  | pulling => true
  | _ => false

/-- How many steps a worker can take once the signal is raised. -/
def stepsLeft : Worker → Nat
  | pulling => 4
  | firing _ => 3
  | counting _ => 2
  | checking => 1
  | gone => 0

theorem stepsLeft_le (w : Worker) : w.stepsLeft ≤ 4 := by
  cases w <;> simp [stepsLeft]

theorem eq_gone_of_stepsLeft {w : Worker} (h : w.stepsLeft = 0) : w = .gone := by
  cases w with
  | gone => rfl
  | _ => simp [stepsLeft] at h

end Worker

namespace Executor

variable {α σ : Type} (next : α → Option Missile × α) (ops : GunOps σ)

/-! ## Pulls under a raised signal -/

/-- How many workers have looked at the signal and are about to pull. -/
def pulling (e : Executor α σ) : Nat := e.workers.countP Worker.isPulling

/-- How many workers are of a kind, when one of them turns to something else. -/
theorem countP_set {p : Worker → Bool} {workers : List Worker} {i : Nat} {before : Worker}
    (h : workers[i]? = some before) (after : Worker) :
    (workers.set i after).countP p + (p before).toNat = workers.countP p + (p after).toNat := by
  obtain ⟨hi, rfl⟩ := List.getElem?_eq_some_iff.mp h
  have hpos : p workers[i] = true → 0 < workers.countP p := fun hp =>
    List.countP_pos_iff.mpr ⟨_, List.getElem_mem hi, hp⟩
  rw [List.countP_set hi]
  cases hb : p workers[i] with
  | false => cases p after <;> simp
  | true =>
    have := hpos hb
    cases p after <;> simp <;> omega

/-- A worker that pulls was about to, and no worker gets there under a raised signal. -/
theorem Works.pulls {e e' : Executor α σ} {before after : Worker} {p : Option Missile}
    {s : Option (Missile × ShotEnd)} (h : Works next ops e before after e' p s)
    (hs : e.stopped = true) :
    p.toList.length + after.isPulling.toNat ≤ before.isPulling.toNat := by
  cases h with
  | enter hclear =>
    rw [hs] at hclear
    cases hclear
  | pull => exact Nat.le_refl 1
  | stop | miss | fire | crash | count => exact Nat.zero_le _

theorem pulls_step {e : Executor α σ} (hs : e.stopped = true) (event : RunEvent) :
    (e.pull? next event).toList.length + (e.step next ops event).pulling ≤ e.pulling := by
  cases event with
  | advance =>
    have hpull : (e.pull? next .advance).toList.length = 0 := rfl
    rw [hpull, Nat.zero_add, step]
    obtain ⟨u, gun, -, -, ha⟩ | ⟨a, gun, -, -, ha⟩ | ⟨r, gun, -, -, -, ha⟩ | ha :=
      advance_cases ops e <;> rw [ha]
    · -- New workers have not looked at the signal yet.
      have hnone : (List.replicate e.size Worker.checking).countP Worker.isPulling = 0 :=
        List.countP_eq_zero.mpr fun w hw => by
          rw [(List.mem_replicate.mp hw).2]
          exact Bool.false_ne_true
      exact Nat.le_trans (Nat.le_of_eq hnone) (Nat.zero_le _)
    all_goals exact Nat.le_refl _
  | worker i =>
    obtain ⟨hw, hp, -⟩ | ⟨before, after, e', hb, hworks, hw⟩ := work_cases next ops e i
    · simp only [step, hw, hp, Option.toList_none, List.length_nil, Nat.zero_add, Nat.le_refl]
    · have hset := countP_set (p := Worker.isPulling) hb after
      have hone := hworks.pulls next ops hs
      simp only [step, hw, pulling, move, hworks.workers.1]
      omega
  | stop => exact Nat.le_of_eq (Nat.zero_add _)

theorem stopped_of_stopped {e : Executor α σ} (hs : e.stopped = true) (event : RunEvent) :
    (e.step next ops event).stopped = true := by
  by_cases he : event = .stop
  · rw [he]
    rfl
  · rw [stopped_step next ops e he]
    exact hs

theorem pulls_run (events : List RunEvent) {w : Watch α σ} (hs : w.executor.stopped = true) :
    ∃ further, (w.run next ops events).pulled = w.pulled ++ further ∧
      further.length + (w.run next ops events).executor.pulling ≤ w.executor.pulling := by
  induction events generalizing w with
  | nil => exact ⟨[], (List.append_nil _).symm, Nat.le_of_eq (Nat.zero_add _)⟩
  | cons event events ih =>
    obtain ⟨further, hpulled, hle⟩ := ih (w := w.step next ops event)
      (stopped_of_stopped next ops hs event)
    refine ⟨(w.executor.pull? next event).toList ++ further, ?_, ?_⟩
    · rw [← List.append_assoc]
      exact hpulled
    · have hstep := pulls_step next ops hs event
      rw [List.length_append]
      have hle : further.length + _ ≤ (w.executor.step next ops event).pulling := hle
      have hrun : (w.run next ops (event :: events)) = (w.step next ops event).run next ops events :=
        rfl
      rw [hrun]
      omega

theorem Staffed.pulling_le {e : Executor α σ} (h : Staffed e) : e.pulling ≤ e.size := by
  cases hp : e.phase with
  | ready =>
    rw [pulling, h.ready hp]
    exact Nat.zero_le _
  | shooting => exact Nat.le_trans List.countP_le_length (Nat.le_of_eq (h.shooting hp))
  | done r =>
    have hnone : e.pulling = 0 := List.countP_eq_zero.mpr fun w hw => by
      rw [Worker.eq_gone (List.all_eq_true.mp (h.done r hp) w hw)]
      exact Bool.false_ne_true
    rw [hnone]
    exact Nat.zero_le _

/-! ## The end of a worker -/

theorem Works.stepsLeft {e e' : Executor α σ} {before after : Worker} {p : Option Missile}
    {s : Option (Missile × ShotEnd)} (h : Works next ops e before after e' p s)
    (hs : e.stopped = true) : after.stepsLeft + 1 ≤ before.stepsLeft := by
  cases h with
  | enter hclear =>
    rw [hs] at hclear
    cases hclear
  | stop | pull | miss | fire | crash | count => simp [Worker.stepsLeft]

theorem stepsLeft_step {e : Executor α σ} (hstaff : Staffed e) (hs : e.stopped = true) {i : Nat}
    {w : Worker} (hw : e.workers[i]? = some w) (event : RunEvent) :
    ∃ w', (e.step next ops event).workers[i]? = some w' ∧
      w'.stepsLeft ≤ w.stepsLeft - [event].count (.worker i) := by
  cases event with
  | advance =>
    refine ⟨w, ?_, Nat.le_refl _⟩
    rw [step]
    obtain ⟨u, gun, hr, -, -⟩ | ⟨a, gun, -, -, ha⟩ | ⟨r, gun, -, -, -, ha⟩ | ha :=
      advance_cases ops e
    · rw [hstaff.ready hr] at hw
      cases hw
    all_goals
      rw [ha]
      exact hw
  | worker j =>
    by_cases hij : j = i
    · subst hij
      rw [List.count_singleton_self, step]
      cases hg : w.isGone with
      | false =>
        obtain ⟨after, e', hworks, hmove⟩ := works_of_getElem? next ops hw hg
        refine ⟨after, ?_, ?_⟩
        · have hj : j < e.workers.length := (List.getElem?_eq_some_iff.mp hw).1
          rw [hmove, move, hworks.workers.1]
          exact List.getElem?_set_self hj
        · have := hworks.stepsLeft next ops hs
          omega
      | true =>
        obtain rfl := Worker.eq_gone hg
        refine ⟨.gone, ?_, Nat.zero_le _⟩
        simp only [work, hw]
    · have hcount : [RunEvent.worker j].count (.worker i) = 0 :=
        List.count_eq_zero.mpr fun h => hij (RunEvent.worker.inj (List.mem_singleton.mp h)).symm
      refine ⟨w, ?_, by rw [hcount]; exact Nat.le_refl _⟩
      rw [step]
      obtain ⟨hsame, -, -⟩ | ⟨before, after, e', -, hworks, hmove⟩ := work_cases next ops e j
      · rw [hsame]
        exact hw
      · rw [hmove, move, hworks.workers.1]
        exact (List.getElem?_set_ne hij).trans hw
  | stop => exact ⟨w, hw, Nat.le_refl _⟩

theorem stepsLeft_run (events : List RunEvent) {e : Executor α σ} (hstaff : Staffed e)
    (hs : e.stopped = true) {i : Nat} {w : Worker} (hw : e.workers[i]? = some w) :
    ∃ w', (e.play next ops events).workers[i]? = some w' ∧
      w'.stepsLeft ≤ w.stepsLeft - events.count (.worker i) := by
  induction events generalizing e w with
  | nil => exact ⟨w, hw, Nat.le_refl _⟩
  | cons event events ih =>
    obtain ⟨w₁, hw₁, hle₁⟩ := stepsLeft_step next ops hstaff hs hw event
    obtain ⟨w', hw', hle⟩ := ih (staffed_step next ops hstaff event)
      (stopped_of_stopped next ops hs event) hw₁
    refine ⟨w', hw', ?_⟩
    rw [← List.singleton_append, List.count_append]
    omega

/-! ## The whole run -/

/-- **The stop signal bounds further fire.** Whenever the signal is raised, at most the workers that
have looked at it already still pull, each one missile; so there are at most as many as workers, even
if the supply never ends. What was pulled before or after is fired, or in the hands of a worker that
is about to; and a worker is gone after four more steps of its own. Once all are gone, every missile
that was pulled has been fired once, and every shot is counted once, by its outcome. -/
theorem stop_bounds_fire (workers : Nat) (ammo : α) (gun : σ) (before later : List RunEvent) :
    let raised := watched next ops workers ammo gun before
    let run := watched next ops workers ammo gun (before ++ .stop :: later)
    let tally := run.executor.tally
    run.executor = (start workers ammo gun false).play next ops (before ++ .stop :: later) ∧
      (∃ further, run.pulled = raised.pulled ++ further ∧
        further.length ≤ raised.executor.pulling ∧ further.length ≤ max workers 1) ∧
      (∀ m, (run.fired.map Prod.fst).count m +
        (run.executor.workers.filterMap Worker.aimed?).count m = run.pulled.count m) ∧
      (∀ i < raised.executor.workers.length, 4 ≤ later.count (.worker i) →
        run.executor.workers[i]? = some .gone) ∧
      (run.executor.allGone = true →
        (run.fired.map Prod.fst).Perm run.pulled ∧ tally.shots = run.pulled.length ∧
        (∀ o, tally.tallyOf o = run.fired.countP fun shot => shot.2.outcome? == some o) ∧
        ((∀ shot ∈ run.fired, shot.2 ≠ .panicked) →
          tally.shots = tally.measured + tally.skipped + tally.failed)) := by
  intro raised run tally
  have hplayed : ∀ events, (watched next ops workers ammo gun events).executor =
      (start workers ammo gun false).play next ops events :=
    Watch.executor_run next ops (Watch.start (start workers ammo gun false))
  have htracks : Tracks run := tracks_watched workers ammo gun _
  have hrun : run = (raised.step next ops .stop).run next ops later := List.foldl_append
  have hstaff : Staffed raised.executor ∧ raised.executor.size = max workers 1 := by
    rw [show raised.executor = _ from hplayed before]
    exact staffed_play next ops before (staffed_start workers ammo gun false)
  have hstopped : (raised.step next ops .stop).executor.stopped = true := rfl
  refine ⟨hplayed _, ?_, htracks.fired, fun i hi hsteps => ?_, fun hgone => ?_⟩
  · obtain ⟨further, hpulled, hle⟩ := pulls_run next ops later hstopped
    have hpulling : (raised.step next ops .stop).executor.pulling = raised.executor.pulling := rfl
    have hmost := hstaff.1.pulling_le
    rw [hstaff.2] at hmost
    refine ⟨further, ?_, by omega, by omega⟩
    rw [hrun, hpulled]
    exact congrArg (· ++ further) (List.append_nil raised.pulled)
  · obtain ⟨w, hw, hle⟩ := stepsLeft_run next ops later
      (staffed_step next ops hstaff.1 .stop) hstopped (List.getElem?_eq_getElem hi)
    have hmost := raised.executor.workers[i].stepsLeft_le
    rw [hrun, Watch.executor_run]
    refine hw.trans (congrArg some (Worker.eq_gone_of_stepsLeft ?_))
    omega
  · have htally := htracks.tallyOf_eq hgone
    have hperm := htracks.fired_perm hgone
    refine ⟨hperm, htracks.pulled, htally, fun hcalm => ?_⟩
    have hlength := hperm.length_eq
    rw [List.length_map, length_eq_outcomes run.fired hcalm, ← htally, ← htally, ← htally,
      ← htracks.pulled] at hlength
    exact hlength.symm

/-! ## An endless supply -/

/-- A supply without end, every second missile of which is skipped. -/
def endless (n : Nat) : Option Missile × Nat :=
  (some ⟨toString n, if n % 2 = 0 then "a" else "b"⟩, n + 1)

/-- The first worker has fired once, and both have looked at the signal since. -/
def bothLooked : List RunEvent := .advance :: [0, 0, 0, 0, 0, 1].map .worker

/-- Both workers go on until they are gone. -/
def untilGone : List RunEvent := [1, 0, 0, 1, 1, 0, 0, 1].map .worker ++ [.advance]

/-- The bound is attained: two workers pull one missile each after the signal. -/
theorem stop_bounds_fire_endless :
    let raised := watched endless sampleGun 2 0 0 bothLooked
    let run := watched endless sampleGun 2 0 0 (bothLooked ++ .stop :: untilGone)
    raised.pulled.length = 1 ∧ raised.executor.pulling = 2 ∧ run.pulled.length = 3 ∧
      run.executor.workers[0]? = some .gone ∧ (run.fired.map Prod.fst).Perm run.pulled ∧
      run.executor.tally = ⟨3, 2, 1, 0⟩ := by
  intro raised run
  have hgone : run.executor.allGone = true := rfl
  obtain ⟨-, -, -, hends, hall⟩ := stop_bounds_fire endless sampleGun 2 0 0 bothLooked untilGone
  exact ⟨rfl, rfl, rfl, hends 0 (by decide) (by decide), (hall hgone).1, rfl⟩

end Executor

end Volley
