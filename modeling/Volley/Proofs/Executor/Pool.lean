import Volley.Executor

/-!
# The worker pool

What the workers of an executor pull, fire and count, whatever the order of their steps. A `Watch`
is an executor with what it did so far: the missiles that were pulled, and the shots with what came
of them. Nothing is assumed of the gun, whose state may also change between two events.

* `tracks_step`: a pulled missile is fired once, and a shot that returns is counted once; what is
  not fired or counted yet is in the hands of a worker.
* `fed_step`: the missiles are pulled in the order of the supply, and a worker that finds none
  leaves the supply empty.
* `fires_each_once`: when all workers are gone, every missile was pulled, fired and counted once.
-/
namespace Volley

/-! ## Outcomes -/

/-- What is counted of a shot. -/
inductive Outcome where
  | measured
  | skipped
  | failed
  deriving DecidableEq, Repr

namespace Outcome

def ofResult : Except Fault Fired → Outcome
  | .ok .measured => measured
  | .ok .skipped => skipped
  | .error _ => failed

end Outcome

/-- The outcome of a shot that returns. -/
def ShotEnd.outcome? : ShotEnd → Option Outcome
  | .returned r => some (.ofResult r)
  | .panicked => none

namespace ShotTally

/-- The tally of an outcome. -/
def tallyOf (t : ShotTally) : Outcome → Nat
  | .measured => t.measured
  | .skipped => t.skipped
  | .failed => t.failed

theorem shots_count (t : ShotTally) (r : Except Fault Fired) : (t.count r).shots = t.shots := by
  rcases r with e | (_ | _) <;> rfl

theorem tallyOf_count (t : ShotTally) (r : Except Fault Fired) (o : Outcome) :
    (t.count r).tallyOf o = t.tallyOf o + [Outcome.ofResult r].count o := by
  rcases r with e | (_ | _) <;> cases o <;> rfl

theorem tallyOf_shots (t : ShotTally) (shots : Nat) (o : Outcome) :
    { t with shots }.tallyOf o = t.tallyOf o := by
  cases o <;> rfl

theorem ext_tallyOf {t u : ShotTally} (hs : t.shots = u.shots)
    (ho : ∀ o, t.tallyOf o = u.tallyOf o) : t = u := by
  obtain ⟨shots, measured, skipped, failed⟩ := t
  have hm := ho .measured
  have hk := ho .skipped
  have hf := ho .failed
  simp only [tallyOf] at hs hm hk hf
  subst hs hm hk hf
  rfl

end ShotTally

namespace Worker

/-- The missile that a worker is about to fire. -/
def aimed? : Worker → Option Missile
  | firing m => some m
  | _ => none

/-- The outcome that a worker is about to count. -/
def outcome? : Worker → Option Outcome
  | counting r => some (.ofResult r)
  | _ => none

theorem eq_gone {w : Worker} (h : w.isGone = true) : w = .gone := by
  cases w with
  | gone => rfl
  | _ => cases h

theorem aimed?_of_isGone {w : Worker} (h : w.isGone = true) : w.aimed? = none := by
  rw [eq_gone h]
  rfl

theorem outcome?_of_isGone {w : Worker} (h : w.isGone = true) : w.outcome? = none := by
  rw [eq_gone h]
  rfl

end Worker

namespace Executor

variable {α σ : Type} (next : α → Option Missile × α) (ops : GunOps σ)

/-! ## Steps -/

/-- The missile that an event takes from the supply. -/
def pull? (e : Executor α σ) : RunEvent → Option Missile
  | .worker i =>
    match e.workers[i]? with
    | some .pulling => (next e.ammo).1
    | _ => none
  | _ => none

/-- The shot that an event fires. -/
def shot? (e : Executor α σ) : RunEvent → Option (Missile × ShotEnd)
  | .worker i =>
    match e.workers[i]? with
    | some (.firing m) => some (m, (ops.shoot e.gun m).1)
    | _ => none
  | _ => none

theorem snd_of_shot? {e : Executor α σ} {event : RunEvent} {shot : Missile × ShotEnd}
    (h : e.shot? ops event = some shot) : shot.2 = (ops.shoot e.gun shot.1).1 := by
  unfold shot? at h
  split at h
  · split at h
    · cases h
      rfl
    · cases h
  · cases h

/-- What one worker does in a step: what it was about to do and is next, all else that changes, and
what it pulls and fires. -/
inductive Works (e : Executor α σ) :
    Worker → Worker → Executor α σ → Option Missile → Option (Missile × ShotEnd) → Prop
  | enter (h : e.stopped = false) : Works e .checking .pulling e none none
  | stop (h : e.stopped = true) : Works e .checking .gone e none none
  | pull {m : Missile} {ammo : α} (h : next e.ammo = (some m, ammo)) :
    Works e .pulling (.firing m)
      { e with ammo, tally := { e.tally with shots := e.tally.shots + 1 } } (some m) none
  | miss {ammo : α} (h : next e.ammo = (none, ammo)) :
    Works e .pulling .gone { e with ammo } none none
  | fire {m : Missile} {r : Except Fault Fired} {gun : σ}
    (h : ops.shoot e.gun m = (.returned r, gun)) :
    Works e (.firing m) (.counting r) { e with gun } none (some (m, .returned r))
  | crash {m : Missile} {gun : σ} (h : ops.shoot e.gun m = (.panicked, gun)) :
    Works e (.firing m) .gone { e with gun } none (some (m, .panicked))
  | count {r : Except Fault Fired} :
    Works e (.counting r) .checking { e with tally := e.tally.count r } none none

/-- A worker that is there and not gone does something. -/
theorem works_of_getElem? {e : Executor α σ} {i : Nat} {before : Worker}
    (hw : e.workers[i]? = some before) (hgoing : before.isGone = false) :
    ∃ after e', Works next ops e before after e' (e.pull? next (.worker i))
      (e.shot? ops (.worker i)) ∧ e.work next ops i = e'.move i after := by
  simp only [work, pull?, shot?, hw]
  cases before with
  | checking =>
    refine ⟨_, e, ?_, rfl⟩
    cases hs : e.stopped with
    | false => exact .enter hs
    | true => exact .stop hs
  | pulling =>
    cases hn : next e.ammo with
    | mk found ammo =>
      cases found with
      | none => exact ⟨.gone, { e with ammo }, .miss hn, rfl⟩
      | some m => exact ⟨.firing m, _, .pull hn, rfl⟩
  | firing m =>
    dsimp only
    cases hf : ops.shoot e.gun m with
    | mk result gun =>
      cases result with
      | returned r => exact ⟨.counting r, { e with gun }, .fire hf, rfl⟩
      | panicked => exact ⟨.gone, { e with gun }, .crash hf, rfl⟩
  | counting r => exact ⟨.checking, _, .count, rfl⟩
  | gone => cases hgoing

theorem work_cases (e : Executor α σ) (i : Nat) :
    (e.work next ops i = e ∧ e.pull? next (.worker i) = none ∧
      e.shot? ops (.worker i) = none) ∨
    ∃ before after e', e.workers[i]? = some before ∧
      Works next ops e before after e' (e.pull? next (.worker i)) (e.shot? ops (.worker i)) ∧
      e.work next ops i = e'.move i after := by
  cases hw : e.workers[i]? with
  | none => exact .inl (by simp only [work, pull?, shot?, hw, and_self])
  | some w =>
    cases hg : w.isGone with
    | false =>
      obtain ⟨after, e', hworks⟩ := works_of_getElem? next ops hw hg
      exact .inr ⟨w, after, e', rfl, hworks⟩
    | true =>
      obtain rfl := Worker.eq_gone hg
      exact .inl (by simp only [work, pull?, shot?, hw, and_self])

/-- A worker's step changes no other worker. -/
theorem Works.workers {e e' : Executor α σ} {before after : Worker} {p : Option Missile}
    {s : Option (Missile × ShotEnd)} (h : Works next ops e before after e' p s) :
    e'.workers = e.workers ∧ e'.size = e.size ∧ e'.phase = e.phase ∧ e'.stopped = e.stopped := by
  cases h <;> exact ⟨rfl, rfl, rfl, rfl⟩

/-- Only a shot touches the gun. -/
theorem Works.gun {e e' : Executor α σ} {before after : Worker} {p : Option Missile}
    {s : Option (Missile × ShotEnd)} (h : Works next ops e before after e' p s) :
    (s = none ∧ e'.gun = e.gun) ∨
      ∃ m, before = .firing m ∧ s = some (m, (ops.shoot e.gun m).1) ∧
        e'.gun = (ops.shoot e.gun m).2 := by
  cases h with
  | fire h => exact .inr ⟨_, rfl, by rw [h], by rw [h]⟩
  | crash h => exact .inr ⟨_, rfl, by rw [h], by rw [h]⟩
  | enter | stop | pull | miss | count => exact .inl ⟨rfl, rfl⟩

/-- Setup makes the workers, and teardown waits until they are gone. -/
theorem advance_cases (e : Executor α σ) :
    (∃ u gun, e.phase = .ready ∧ ops.setup e.gun = (.ok u, gun) ∧ e.advance ops =
      { e with gun, workers := List.replicate e.size .checking, phase := .shooting }) ∨
    (∃ a gun, e.phase = .ready ∧ ops.setup e.gun = (.error a, gun) ∧
      e.advance ops = { e with gun, phase := .done (.error a) }) ∨
    (∃ r gun, e.phase = .shooting ∧ e.allGone = true ∧ ops.teardown e.gun = (r, gun) ∧
      e.advance ops = { e with gun, phase := .done (Abort.lift r) }) ∨
    e.advance ops = e := by
  unfold advance
  cases hp : e.phase with
  | ready =>
    dsimp only
    cases hs : ops.setup e.gun with
    | mk result gun =>
      cases result with
      | ok u => exact .inl ⟨u, gun, rfl, rfl, rfl⟩
      | error a => exact .inr (.inl ⟨a, gun, rfl, rfl, rfl⟩)
  | shooting =>
    dsimp only
    by_cases hg : e.allGone = true
    · exact .inr (.inr (.inl
        ⟨(ops.teardown e.gun).1, (ops.teardown e.gun).2, rfl, hg, rfl, if_pos hg⟩))
    · exact .inr (.inr (.inr (if_neg hg)))
  | done r => exact .inr (.inr (.inr rfl))

/-! ## Watching a run -/

/-- An executor and what it did so far. -/
structure Watch (α σ : Type) where
  executor : Executor α σ
  pulled : List Missile
  fired : List (Missile × ShotEnd)

namespace Watch

def start (e : Executor α σ) : Watch α σ := ⟨e, [], []⟩

def step (w : Watch α σ) (event : RunEvent) : Watch α σ where
  executor := w.executor.step next ops event
  pulled := w.pulled ++ (w.executor.pull? next event).toList
  fired := w.fired ++ (w.executor.shot? ops event).toList

def run (w : Watch α σ) (events : List RunEvent) : Watch α σ :=
  events.foldl (fun w event => w.step next ops event) w

/-- Watching changes nothing. -/
theorem executor_run (w : Watch α σ) (events : List RunEvent) :
    (w.run next ops events).executor = w.executor.play next ops events := by
  induction events generalizing w with
  | nil => rfl
  | cons event events ih => exact ih (w.step next ops event)

end Watch

/-! ## Where the workers stand -/

/-- There are workers from the setup on, and the run is done only when all of them are gone. -/
structure Staffed (e : Executor α σ) : Prop where
  size : 1 ≤ e.size
  ready : e.phase = .ready → e.workers = []
  shooting : e.phase = .shooting → e.workers.length = e.size
  done : ∀ r, e.phase = .done r → e.allGone = true
  torn : ∀ u, e.phase = .done (.ok u) → e.workers.length = e.size

theorem staffed_start (workers : Nat) (ammo : α) (gun : σ) (stopped : Bool) :
    Staffed (start workers ammo gun stopped) :=
  ⟨Nat.le_max_right _ _, fun _ => rfl, nofun, nofun, nofun⟩

theorem length_workers_move (e : Executor α σ) (i : Nat) (w : Worker) :
    (e.move i w).workers.length = e.workers.length := List.length_set

/-- When all workers are gone, no worker does anything. -/
theorem work_of_allGone {e : Executor α σ} (h : e.allGone = true) (i : Nat) :
    e.work next ops i = e := by
  unfold work
  cases hw : e.workers[i]? with
  | none => rfl
  | some w =>
    obtain rfl := Worker.eq_gone (List.all_eq_true.mp h w (List.mem_of_getElem? hw))
    rfl

theorem staffed_work {e : Executor α σ} (h : Staffed e) (i : Nat) :
    Staffed (e.work next ops i) := by
  by_cases hg : e.allGone = true
  · rw [work_of_allGone next ops hg]
    exact h
  · obtain ⟨hw, -, -⟩ | ⟨before, after, e', hb, hworks, hw⟩ := work_cases next ops e i <;> rw [hw]
    · exact h
    · obtain ⟨hworkers, hsize, hphase, -⟩ := hworks.workers
      have hdone : ∀ r, e.phase ≠ .done r := fun r hr => hg (h.done r hr)
      refine ⟨hsize ▸ h.size, fun hr => ?_, fun hs => ?_, fun r hr => ?_, fun u hu => ?_⟩
      · rw [h.ready (hphase ▸ hr)] at hb
        cases hb
      · rw [length_workers_move, hworkers]
        exact (h.shooting (hphase ▸ hs)).trans hsize.symm
      · exact absurd (hphase ▸ hr) (hdone r)
      · exact absurd (hphase ▸ hu) (hdone _)

theorem staffed_advance {e : Executor α σ} (h : Staffed e) : Staffed (e.advance ops) := by
  obtain ⟨u, gun, -, -, ha⟩ | ⟨a, gun, hr, -, ha⟩ | ⟨r, gun, hs, hg, -, ha⟩ | ha :=
    advance_cases ops e <;> rw [ha]
  · exact ⟨h.size, nofun, fun _ => List.length_replicate, nofun, nofun⟩
  · refine ⟨h.size, nofun, nofun, fun _ _ => ?_, nofun⟩
    show e.workers.all Worker.isGone = true
    rw [h.ready hr]
    rfl
  · exact ⟨h.size, nofun, nofun, fun _ _ => hg, fun _ _ => h.shooting hs⟩
  · exact h

theorem isDone_iff (e : Executor α σ) : e.isDone = true ↔ ∃ r, e.phase = .done r := by
  unfold isDone
  cases e.phase <;> simp

/-- A run that is done stays as it is, but for the stop signal. -/
theorem step_of_isDone {e : Executor α σ} (h : Staffed e) (hd : e.isDone = true)
    {event : RunEvent} (hs : event ≠ .stop) : e.step next ops event = e := by
  obtain ⟨r, hr⟩ := e.isDone_iff.mp hd
  cases event with
  | advance => simp only [step, advance, hr]
  | worker i => exact work_of_allGone next ops (h.done r hr) i
  | stop => exact absurd rfl hs

theorem isDone_step {e : Executor α σ} (h : Staffed e) (hd : e.isDone = true)
    (event : RunEvent) : (e.step next ops event).isDone = true := by
  by_cases hs : event = .stop
  · rw [hs]
    exact hd
  · rw [step_of_isDone next ops h hd hs]
    exact hd

/-- A worker that is not gone is there while the run is on. -/
theorem Staffed.shooting_of_worker {e : Executor α σ} (h : Staffed e) {i : Nat} {w : Worker}
    (hw : e.workers[i]? = some w) (hgoing : w.isGone = false) : e.phase = .shooting := by
  cases hp : e.phase with
  | shooting => rfl
  | ready =>
    rw [h.ready hp] at hw
    cases hw
  | done r =>
    have := List.all_eq_true.mp (h.done r hp) w (List.mem_of_getElem? hw)
    rw [hgoing] at this
    cases this

theorem staffed_step {e : Executor α σ} (h : Staffed e) (event : RunEvent) :
    Staffed (e.step next ops event) := by
  cases event with
  | advance => exact staffed_advance ops h
  | worker i => exact staffed_work next ops h i
  | stop => exact ⟨h.size, h.ready, h.shooting, h.done, h.torn⟩

/-- The stop signal is raised by its event alone. -/
theorem stopped_step (e : Executor α σ) {event : RunEvent} (h : event ≠ .stop) :
    (e.step next ops event).stopped = e.stopped := by
  cases event with
  | advance =>
    obtain ⟨u, gun, -, -, ha⟩ | ⟨a, gun, -, -, ha⟩ | ⟨r, gun, -, -, -, ha⟩ | ha :=
      advance_cases ops e <;> rw [step, ha]
  | worker i =>
    obtain ⟨hw, -, -⟩ | ⟨before, after, e', -, hworks, hw⟩ := work_cases next ops e i <;>
      rw [step, hw]
    exact hworks.workers.2.2.2
  | stop => exact absurd rfl h

theorem size_step (e : Executor α σ) (event : RunEvent) :
    (e.step next ops event).size = e.size := by
  cases event with
  | advance =>
    obtain ⟨u, gun, -, -, ha⟩ | ⟨a, gun, -, -, ha⟩ | ⟨r, gun, -, -, -, ha⟩ | ha :=
      advance_cases ops e <;> rw [step, ha]
  | worker i =>
    obtain ⟨hw, -, -⟩ | ⟨before, after, e', -, hworks, hw⟩ := work_cases next ops e i <;>
      rw [step, hw]
    exact hworks.workers.2.1
  | stop => rfl

/-- A run that goes on is staffed, and by as many workers. -/
theorem staffed_play (events : List RunEvent) {e : Executor α σ} (h : Staffed e) :
    Staffed (e.play next ops events) ∧ (e.play next ops events).size = e.size := by
  induction events generalizing e with
  | nil => exact ⟨h, rfl⟩
  | cons event events ih =>
    obtain ⟨hstaff, hsize⟩ := ih (staffed_step next ops h event)
    exact ⟨hstaff, hsize.trans (size_step next ops e event)⟩

/-! ## What is pulled, fired and counted -/

/-- A missile that was pulled was fired, or a worker is about to; a shot that returned was counted,
or a worker is about to. -/
structure Tracks (w : Watch α σ) : Prop where
  pulled : w.executor.tally.shots = w.pulled.length
  fired : ∀ m, (w.fired.map Prod.fst).count m +
    (w.executor.workers.filterMap Worker.aimed?).count m = w.pulled.count m
  counted : ∀ o, w.executor.tally.tallyOf o +
    (w.executor.workers.filterMap Worker.outcome?).count o =
      (w.fired.filterMap (·.2.outcome?)).count o

theorem tracks_start (workers : Nat) (ammo : α) (gun : σ) (stopped : Bool) :
    Tracks (Watch.start (start workers ammo gun stopped)) :=
  ⟨rfl, fun _ => rfl, fun o => by cases o <;> rfl⟩

/-- What the workers hold, when one of them turns to something else. -/
theorem count_filterMap_set {β : Type} [DecidableEq β] (f : Worker → Option β)
    {workers : List Worker} {i : Nat} {before : Worker} (h : workers[i]? = some before)
    (after : Worker) (b : β) :
    ((workers.set i after).filterMap f).count b + (f before).toList.count b =
      (workers.filterMap f).count b + (f after).toList.count b := by
  induction workers generalizing i with
  | nil => cases h
  | cons w workers ih =>
    cases i with
    | zero =>
      obtain rfl : w = before := Option.some.inj h
      cases hb : f w <;> cases ha : f after <;>
        simp only [List.set_cons_zero, List.filterMap_cons, hb, ha, Option.toList_none,
          Option.toList_some, List.count_nil, List.count_cons] <;> omega
    | succ i =>
      have := ih h
      cases hw : f w <;>
        simp only [List.set_cons_succ, List.filterMap_cons, hw, List.count_cons] <;> omega

section Works
variable {next ops} {e e' : Executor α σ} {before after : Worker} {p : Option Missile}
  {s : Option (Missile × ShotEnd)} (h : Works next ops e before after e' p s)

include h in
theorem Works.shots : e'.tally.shots = e.tally.shots + p.toList.length := by
  cases h with
  | pull => rfl
  | count => exact ShotTally.shots_count _ _
  | enter | stop | miss | fire | crash => rfl

include h in
/-- A step keeps the missiles that were fired or are at hand equal to those that were pulled. -/
theorem Works.missiles (m : Missile) :
    (s.map Prod.fst).toList.count m + after.aimed?.toList.count m =
      before.aimed?.toList.count m + p.toList.count m := by
  cases h <;> simp [Worker.aimed?]

include h in
/-- A step keeps the outcomes that were counted or are at hand equal to those of the shots. -/
theorem Works.outcomes (o : Outcome) :
    e'.tally.tallyOf o + after.outcome?.toList.count o =
      e.tally.tallyOf o + before.outcome?.toList.count o +
        (s.bind (·.2.outcome?)).toList.count o := by
  cases h with
  | pull => exact ShotTally.tallyOf_shots _ _ o
  | count =>
    rw [ShotTally.tallyOf_count]
    rfl
  | fire => simp [Worker.outcome?, ShotEnd.outcome?]
  | enter | stop | miss | crash => rfl

end Works

theorem tracks_worker {w : Watch α σ} (h : Tracks w) (i : Nat) :
    Tracks (w.step next ops (.worker i)) := by
  obtain ⟨hpulled, hfired, hcounted⟩ := h
  obtain ⟨hw, hp, hs⟩ | ⟨before, after, e', hb, hworks, hw⟩ := work_cases next ops w.executor i
  · simp only [Watch.step, step, hw, hp, hs, Option.toList_none, List.append_nil]
    exact ⟨hpulled, hfired, hcounted⟩
  · have hworkers : (e'.move i after).workers = w.executor.workers.set i after := by
      rw [move, hworks.workers.1]
    simp only [Watch.step, step, hw]
    generalize w.executor.pull? next (.worker i) = p at hworks ⊢
    generalize w.executor.shot? ops (.worker i) = s at hworks ⊢
    refine ⟨?_, fun m => ?_, fun o => ?_⟩
    · rw [List.length_append, ← hpulled]
      exact hworks.shots
    · have hset := count_filterMap_set Worker.aimed? hb after m
      have hstep := hworks.missiles m
      have hbefore := hfired m
      simp only [hworkers, List.map_append, List.count_append, ← Option.toList_map]
      omega
    · have hset := count_filterMap_set Worker.outcome? hb after o
      have hstep : (e'.move i after).tally.tallyOf o + _ = _ := hworks.outcomes o
      have hbefore := hcounted o
      have hshot : (s.toList.filterMap (·.2.outcome?)).count o =
          (s.bind (·.2.outcome?)).toList.count o := by cases s <;> rfl
      simp only [hworkers, List.filterMap_append, List.count_append, hshot]
      omega

theorem tracks_advance {w : Watch α σ} (hstaff : Staffed w.executor) (h : Tracks w) :
    Tracks (w.step next ops .advance) := by
  obtain ⟨hpulled, hfired, hcounted⟩ := h
  simp only [Watch.step, step, pull?, shot?, Option.toList_none, List.append_nil]
  obtain ⟨u, gun, hr, -, ha⟩ | ⟨a, gun, -, -, ha⟩ | ⟨r, gun, -, -, -, ha⟩ | ha :=
    advance_cases ops w.executor <;> rw [ha]
  · -- The new workers have nothing at hand, and there were none before.
    rw [hstaff.ready hr] at hfired hcounted
    have hnone : ∀ {β : Type} (f : Worker → Option β), f .checking = none →
        (List.replicate w.executor.size Worker.checking).filterMap f = [] := by
      intro β f hf
      rw [List.filterMap_eq_nil_iff]
      intro worker hw
      rw [(List.mem_replicate.mp hw).2, hf]
    refine ⟨hpulled, fun m => ?_, fun o => ?_⟩ <;> simp only
    · rw [hnone Worker.aimed? rfl]
      exact hfired m
    · rw [hnone Worker.outcome? rfl]
      exact hcounted o
  · exact ⟨hpulled, hfired, hcounted⟩
  · exact ⟨hpulled, hfired, hcounted⟩
  · exact ⟨hpulled, hfired, hcounted⟩

theorem tracks_step {w : Watch α σ} (hstaff : Staffed w.executor) (h : Tracks w)
    (event : RunEvent) : Tracks (w.step next ops event) := by
  cases event with
  | advance => exact tracks_advance next ops hstaff h
  | worker i => exact tracks_worker next ops h i
  | stop =>
    simp only [Watch.step, step, pull?, shot?, Option.toList_none, List.append_nil]
    exact ⟨h.pulled, h.fired, h.counted⟩

theorem tracks_run (events : List RunEvent) {w : Watch α σ} (hstaff : Staffed w.executor)
    (h : Tracks w) : Tracks (w.run next ops events) := by
  induction events generalizing w with
  | nil => exact h
  | cons event events ih =>
    exact ih (staffed_step next ops hstaff event) (tracks_step next ops hstaff h event)

/-- What the workers have at hand when all of them are gone. -/
theorem filterMap_of_allGone {β : Type} {f : Worker → Option β} {e : Executor α σ}
    (hf : ∀ w : Worker, w.isGone = true → f w = none) (h : e.allGone = true) :
    e.workers.filterMap f = [] :=
  List.filterMap_eq_nil_iff.mpr fun w hw => hf w (List.all_eq_true.mp h w hw)

section Gone
variable {w : Watch α σ} (h : Tracks w) (hgone : w.executor.allGone = true)
include h hgone

theorem Tracks.fired_perm : (w.fired.map Prod.fst).Perm w.pulled := by
  rw [List.perm_iff_count]
  intro m
  have := h.fired m
  rwa [filterMap_of_allGone (fun _ => Worker.aimed?_of_isGone) hgone] at this

theorem Tracks.tallyOf_eq (o : Outcome) :
    w.executor.tally.tallyOf o = w.fired.countP fun shot => shot.2.outcome? == some o := by
  have := h.counted o
  rw [filterMap_of_allGone (fun _ => Worker.outcome?_of_isGone) hgone] at this
  rw [← Nat.add_zero (w.executor.tally.tallyOf o)]
  exact this.trans List.count_filterMap

end Gone

/-! ## The supply -/

/-- The supply after so many calls. -/
def after (a : α) : Nat → α
  | 0 => a
  | n + 1 => (next (after a n)).2

/-- The supply hands out these missiles in this order, and then none, however often it is asked. -/
def Yields (a : α) (missiles : List Missile) : Prop :=
  ∀ n, (next (after next a n)).1 = missiles[n]?

/-- A supply that shows what it has left, and hands that out from its head. -/
theorem yields_of_view {view : α → List Missile} {sound : α → Prop}
    (hnext : ∀ a, sound a →
      (next a).1 = (view a).head? ∧ view (next a).2 = (view a).tail ∧ sound (next a).2)
    {a : α} (ha : sound a) : Yields next a (view a) := by
  have hafter : ∀ n, sound (after next a n) ∧ view (after next a n) = (view a).drop n := by
    intro n
    induction n with
    | zero => exact ⟨ha, rfl⟩
    | succ n ih =>
      obtain ⟨-, hview, hsound⟩ := hnext _ ih.1
      refine ⟨hsound, hview.trans ?_⟩
      rw [ih.2, List.tail_drop]
  intro n
  obtain ⟨hsound, hview⟩ := hafter n
  rw [(hnext _ hsound).1, hview, List.head?_drop]

/-- A list as a supply. -/
def pop (l : List Missile) : Option Missile × List Missile := (l.head?, l.tail)

theorem yields_list (missiles : List Missile) : Yields pop missiles missiles :=
  @yields_of_view _ pop id (fun _ => True) (fun _ _ => ⟨rfl, rfl, trivial⟩) missiles trivial

/-- So many calls were made to the supply, and nothing but what they gave was pulled. A worker is
gone only where the supply had nothing left. -/
structure Fed (a : α) (missiles : List Missile) (w : Watch α σ) (calls : Nat) : Prop where
  ammo : w.executor.ammo = after next a calls
  pulled : w.pulled = missiles.take calls
  empty : ∀ worker ∈ w.executor.workers, worker.isGone = true → missiles.length < calls

theorem fed_start (workers : Nat) (a : α) (gun : σ) (stopped : Bool) (missiles : List Missile) :
    Fed next a missiles (Watch.start (start workers a gun stopped)) 0 :=
  ⟨rfl, rfl, nofun⟩

section Fed
variable {next ops} {a : α} {missiles : List Missile} (hy : Yields next a missiles)

theorem Fed.of_workers {w w' : Watch α σ} {calls : Nat} (h : Fed next a missiles w calls)
    (hammo : w'.executor.ammo = w.executor.ammo) (hpulled : w'.pulled = w.pulled)
    (hworkers : ∀ worker ∈ w'.executor.workers, worker.isGone = true →
      worker ∈ w.executor.workers) : Fed next a missiles w' calls :=
  ⟨hammo.trans h.ammo, hpulled.trans h.pulled,
    fun worker hw hg => h.empty worker (hworkers worker hw hg) hg⟩

theorem isGone_set {workers : List Worker} {i : Nat} {new : Worker} (hnew : new.isGone = false) :
    ∀ worker ∈ workers.set i new, worker.isGone = true → worker ∈ workers := by
  intro worker hw hg
  rcases List.mem_or_eq_of_mem_set hw with hw | rfl
  · exact hw
  · rw [hnew] at hg
    cases hg

include hy in
theorem fed_worker {w : Watch α σ} {calls : Nat} (h : Fed next a missiles w calls) (i : Nat)
    (hs : w.executor.stopped = false)
    (hcalm : ∀ m, w.executor.shot? ops (.worker i) ≠ some (m, .panicked)) :
    ∃ calls, Fed next a missiles (w.step next ops (.worker i)) calls := by
  obtain ⟨hw, hp, -⟩ | ⟨before, new, e', -, hworks, hw⟩ := work_cases next ops w.executor i
  · refine ⟨calls, ?_⟩
    simp only [Watch.step, step, hw, hp, Option.toList_none, List.append_nil]
    exact ⟨h.ammo, h.pulled, h.empty⟩
  · have hcall := hy calls
    rw [← h.ammo] at hcall
    have hnext : after next a (calls + 1) = (next w.executor.ammo).2 := by rw [after, h.ammo]
    simp only [Watch.step, step, hw]
    generalize w.executor.pull? next (.worker i) = p at hworks ⊢
    generalize w.executor.shot? ops (.worker i) = s at hworks hcalm ⊢
    cases hworks with
    | enter => exact ⟨calls, h.of_workers rfl (List.append_nil _) (isGone_set rfl)⟩
    | stop hstop =>
      rw [hs] at hstop
      cases hstop
    | pull hn =>
      rw [hn] at hcall hnext
      refine ⟨calls + 1, hnext.symm, ?_, fun worker hm hg => ?_⟩
      · rw [List.take_add_one, ← hcall, h.pulled]
      · have := h.empty worker (isGone_set rfl worker hm hg) hg
        omega
    | miss hn =>
      rw [hn] at hcall hnext
      have hlast : missiles.length ≤ calls := List.getElem?_eq_none_iff.mp hcall.symm
      refine ⟨calls + 1, hnext.symm, ?_, fun _ _ _ => Nat.lt_succ_of_le hlast⟩
      rw [List.take_add_one, ← hcall, h.pulled]
    | fire => exact ⟨calls, h.of_workers rfl (List.append_nil _) (isGone_set rfl)⟩
    | crash => exact absurd rfl (hcalm _)
    | count => exact ⟨calls, h.of_workers rfl (List.append_nil _) (isGone_set rfl)⟩

include hy in
theorem fed_step {w : Watch α σ} {calls : Nat} (h : Fed next a missiles w calls) (event : RunEvent)
    (hs : w.executor.stopped = false)
    (hcalm : ∀ m, w.executor.shot? ops event ≠ some (m, .panicked)) :
    ∃ calls, Fed next a missiles (w.step next ops event) calls := by
  cases event with
  | advance =>
    refine ⟨calls, ?_⟩
    simp only [Watch.step, step, pull?, shot?, Option.toList_none, List.append_nil]
    obtain ⟨u, gun, -, -, ha⟩ | ⟨a, gun, -, -, ha⟩ | ⟨r, gun, -, -, -, ha⟩ | ha :=
      advance_cases ops w.executor <;> rw [ha]
    · refine ⟨h.ammo, h.pulled, fun worker hm hg => ?_⟩
      rw [(List.mem_replicate.mp hm).2] at hg
      cases hg
    · exact ⟨h.ammo, h.pulled, h.empty⟩
    · exact ⟨h.ammo, h.pulled, h.empty⟩
    · exact ⟨h.ammo, h.pulled, h.empty⟩
  | worker i => exact fed_worker hy h i hs hcalm
  | stop => exact ⟨calls, h.of_workers rfl (List.append_nil _) fun _ hm _ => hm⟩

/-- Once the workers are gone, of whom there were some, all missiles were pulled. -/
theorem Fed.pulled_eq {w : Watch α σ} {calls : Nat} (h : Fed next a missiles w calls)
    (hsome : w.executor.workers ≠ []) (hgone : w.executor.allGone = true) :
    w.pulled = missiles := by
  obtain ⟨worker, hw⟩ := List.exists_mem_of_ne_nil _ hsome
  have := h.empty worker hw (List.all_eq_true.mp hgone worker hw)
  rw [h.pulled, List.take_of_length_le (Nat.le_of_lt this)]

end Fed

/-! ## The whole run -/

section Run
variable {next ops}

theorem fired_run (events : List RunEvent) (w : Watch α σ) :
    ∀ shot ∈ w.fired, shot ∈ (w.run next ops events).fired := by
  induction events generalizing w with
  | nil => exact fun _ h => h
  | cons event events ih => exact fun shot h => ih _ shot (List.mem_append_left _ h)

/-- Every shot is what the gun came to in some state. -/
theorem shot_of_gun (events : List RunEvent) {w : Watch α σ}
    (h : ∀ shot ∈ w.fired, ∃ gun, shot.2 = (ops.shoot gun shot.1).1) :
    ∀ shot ∈ (w.run next ops events).fired, ∃ gun, shot.2 = (ops.shoot gun shot.1).1 := by
  induction events generalizing w with
  | nil => exact h
  | cons event events ih =>
    refine ih fun shot hshot => ?_
    rcases List.mem_append.mp hshot with hshot | hshot
    · exact h shot hshot
    · exact ⟨w.executor.gun, snd_of_shot? ops (Option.mem_toList.mp hshot)⟩

theorem fed_run (events : List RunEvent) {a : α} {missiles : List Missile}
    (hy : Yields next a missiles) {w : Watch α σ} {calls : Nat} (h : Fed next a missiles w calls)
    (hs : w.executor.stopped = false) (hstop : RunEvent.stop ∉ events)
    (hcalm : ∀ shot ∈ (w.run next ops events).fired, shot.2 ≠ .panicked) :
    ∃ calls, Fed next a missiles (w.run next ops events) calls := by
  induction events generalizing w calls with
  | nil => exact ⟨calls, h⟩
  | cons event events ih =>
    have hcalm' : ∀ m, w.executor.shot? ops event ≠ some (m, .panicked) := by
      intro m hm
      refine hcalm (m, .panicked) (fired_run events _ _ ?_) rfl
      refine List.mem_append_right _ ?_
      rw [hm]
      exact List.mem_singleton_self _
    obtain ⟨calls, h⟩ := fed_step hy h event hs hcalm'
    have hnext : event ≠ .stop := fun he => hstop (he ▸ List.mem_cons_self)
    exact ih h ((stopped_step next ops _ hnext).trans hs)
      (fun hm => hstop (List.mem_cons_of_mem _ hm)) hcalm

end Run

/-- A run as it is watched from its start, before any stop signal. -/
def watched (workers : Nat) (ammo : α) (gun : σ) (events : List RunEvent) : Watch α σ :=
  (Watch.start (start workers ammo gun false)).run next ops events

/-- A run without a stop signal and without a panic, at whose end all workers are gone. -/
structure RunsDry (workers : Nat) (ammo : α) (gun : σ) (events : List RunEvent) : Prop where
  unstopped : RunEvent.stop ∉ events
  calm : ∀ shot ∈ (watched next ops workers ammo gun events).fired, shot.2 ≠ .panicked
  begun : (watched next ops workers ammo gun events).executor.workers ≠ []
  gone : (watched next ops workers ammo gun events).executor.allGone = true

section Dry
variable {next ops} {workers : Nat} {ammo : α} {gun : σ} {events : List RunEvent}
  {missiles : List Missile} (hy : Yields next ammo missiles)

theorem tracks_watched (workers : Nat) (ammo : α) (gun : σ) (events : List RunEvent) :
    Tracks (watched next ops workers ammo gun events) :=
  tracks_run next ops events (staffed_start workers ammo gun false)
    (tracks_start workers ammo gun false)

include hy in
theorem RunsDry.pulled_eq (h : RunsDry next ops workers ammo gun events) :
    (watched next ops workers ammo gun events).pulled = missiles := by
  obtain ⟨calls, hfed⟩ := fed_run events hy (fed_start next workers ammo gun false missiles) rfl
    h.unstopped h.calm
  exact hfed.pulled_eq h.begun h.gone

include hy in
theorem RunsDry.fired_perm (h : RunsDry next ops workers ammo gun events) :
    ((watched next ops workers ammo gun events).fired.map Prod.fst).Perm missiles := by
  have hperm := (tracks_watched workers ammo gun events).fired_perm h.gone
  rwa [h.pulled_eq hy] at hperm

include hy in
theorem RunsDry.shots_eq (h : RunsDry next ops workers ammo gun events) :
    (watched next ops workers ammo gun events).executor.tally.shots = missiles.length := by
  rw [(tracks_watched workers ammo gun events).pulled, h.pulled_eq hy]

/-- If the missile decides the outcome, it decides the tallies. -/
theorem RunsDry.tallyOf_eq (h : RunsDry next ops workers ammo gun events)
    (hy : Yields next ammo missiles) {outcome : Missile → Outcome}
    (hdecided : ∀ gun m r, (ops.shoot gun m).1 = .returned r → .ofResult r = outcome m)
    (o : Outcome) :
    (watched next ops workers ammo gun events).executor.tally.tallyOf o =
      missiles.countP (outcome · == o) := by
  have hsame : ∀ shot ∈ (watched next ops workers ammo gun events).fired,
      shot.2.outcome? = some (outcome shot.1) := by
    intro shot hshot
    have hstart : ∀ shot ∈ (Watch.start (start workers ammo gun false)).fired,
        ∃ gun, shot.2 = (ops.shoot gun shot.1).1 := nofun
    obtain ⟨gun', hgun⟩ := shot_of_gun events hstart shot hshot
    cases hend : shot.2 with
    | panicked => exact absurd hend (h.calm shot hshot)
    | returned r => exact congrArg some (hdecided gun' shot.1 r (hgun.symm.trans hend))
  calc (watched next ops workers ammo gun events).executor.tally.tallyOf o
      = (watched next ops workers ammo gun events).fired.countP
          (fun shot => shot.2.outcome? == some o) :=
        (tracks_watched workers ammo gun events).tallyOf_eq h.gone o
    _ = (watched next ops workers ammo gun events).fired.countP (fun shot => outcome shot.1 == o) :=
        List.countP_congr fun shot hshot => by rw [hsame shot hshot]; simp
    _ = ((watched next ops workers ammo gun events).fired.map Prod.fst).countP
          (outcome · == o) := by
        rw [List.countP_map]
        rfl
    _ = missiles.countP (outcome · == o) := (h.fired_perm hy).countP_eq _

/-- Shots that all return are the shots of the three outcomes. -/
theorem length_eq_outcomes (fired : List (Missile × ShotEnd))
    (h : ∀ shot ∈ fired, shot.2 ≠ .panicked) :
    fired.length = fired.countP (fun shot => shot.2.outcome? == some .measured) +
      fired.countP (fun shot => shot.2.outcome? == some .skipped) +
      fired.countP (fun shot => shot.2.outcome? == some .failed) := by
  induction fired with
  | nil => rfl
  | cons shot fired ih =>
    have hfired := ih fun s hs => h s (List.mem_cons_of_mem _ hs)
    have hshot := h shot List.mem_cons_self
    obtain ⟨m, r | _⟩ := shot
    · rcases r with e | (_ | _) <;>
        simp [ShotEnd.outcome?, Outcome.ofResult] at hfired ⊢ <;> omega
    · exact absurd rfl hshot

/-- **Every missile is fired exactly once.** A run that empties its supply pulls the missiles in
their order and fires each of them once, whatever the order of the workers' steps; it counts as many
shots as there are missiles, each by its outcome. Where the missile decides the outcome, any other
run of the gun over the same missiles counts the same. -/
theorem fires_each_once (hy : Yields next ammo missiles)
    (h : RunsDry next ops workers ammo gun events) :
    let run := watched next ops workers ammo gun events
    let tally := run.executor.tally
    run.executor = (start workers ammo gun false).play next ops events ∧
      run.pulled = missiles ∧ (run.fired.map Prod.fst).Perm missiles ∧
      tally.shots = missiles.length ∧
      tally.shots = tally.measured + tally.skipped + tally.failed ∧
      (∀ o, tally.tallyOf o = run.fired.countP fun shot => shot.2.outcome? == some o) ∧
      ∀ outcome : Missile → Outcome,
        (∀ gun m r, (ops.shoot gun m).1 = .returned r → .ofResult r = outcome m) →
        ∀ workers' gun' events', RunsDry next ops workers' ammo gun' events' →
          (watched next ops workers' ammo gun' events').executor.tally = tally := by
  intro run tally
  have htracks : Tracks run := tracks_watched workers ammo gun events
  have hperm : (run.fired.map Prod.fst).Perm missiles := h.fired_perm hy
  have hshots : tally.shots = missiles.length := h.shots_eq hy
  have htally := htracks.tallyOf_eq h.gone
  refine ⟨Watch.executor_run next ops _ events, h.pulled_eq hy, hperm, hshots, ?_, htally, ?_⟩
  · have hlength := hperm.length_eq
    rw [List.length_map, length_eq_outcomes run.fired h.calm, ← htally, ← htally,
      ← htally] at hlength
    rw [hshots, ← hlength]
    rfl
  · intro outcome hdecided workers' gun' events' h'
    refine ShotTally.ext_tallyOf ((h'.shots_eq hy).trans hshots.symm) fun o => ?_
    rw [h'.tallyOf_eq hy hdecided o]
    exact (h.tallyOf_eq hy hdecided o).symm

end Dry

/-- A gun that skips the marker `b` and fails at all but that and `a`; it counts its shots. -/
def sampleGun : GunOps Nat where
  setup n := (.ok ⟨⟩, n)
  shoot n m := (.returned (if m.marker = "a" then .ok .measured
    else if m.marker = "b" then .ok .skipped else .error (.transport m.marker)), n + 1)
  teardown n := (.ok ⟨⟩, n)

def sampleAmmo : List Missile := [⟨"1", "a"⟩, ⟨"2", "b"⟩, ⟨"3", "c"⟩]

/-- Two workers, the second of which fires first and again while the first has a missile at hand. -/
def twoWorkers : List RunEvent :=
  .advance :: [0, 1, 0, 1, 1, 1, 1, 1, 0, 0, 0, 0, 1, 1, 1, 1].map .worker ++ [.advance]

/-- One worker, until it finds no missile. -/
def oneWorker : List RunEvent := .advance :: List.replicate 14 (.worker 0)

theorem runsDry_twoWorkers : RunsDry pop sampleGun 2 sampleAmmo 0 twoWorkers where
  unstopped := by decide
  calm shot hshot := by
    have hfired : (watched pop sampleGun 2 sampleAmmo 0 twoWorkers).fired =
      [(⟨"2", "b"⟩, .returned (.ok .skipped)), (⟨"1", "a"⟩, .returned (.ok .measured)),
        (⟨"3", "c"⟩, .returned (.error (.transport "c")))] := rfl
    rw [hfired] at hshot
    simp only [List.mem_cons, List.not_mem_nil, or_false] at hshot
    rcases hshot with rfl | rfl | rfl <;> exact nofun
  begun := List.cons_ne_nil _ _
  gone := rfl

theorem runsDry_oneWorker : RunsDry pop sampleGun 0 sampleAmmo 7 oneWorker where
  unstopped := by decide
  calm shot hshot := by
    have hfired : (watched pop sampleGun 0 sampleAmmo 7 oneWorker).fired =
      [(⟨"1", "a"⟩, .returned (.ok .measured)), (⟨"2", "b"⟩, .returned (.ok .skipped)),
        (⟨"3", "c"⟩, .returned (.error (.transport "c")))] := rfl
    rw [hfired] at hshot
    simp only [List.mem_cons, List.not_mem_nil, or_false] at hshot
    rcases hshot with rfl | rfl | rfl <;> exact nofun
  begun := List.cons_ne_nil _ _
  gone := rfl

theorem fires_each_once_twoWorkers :
    (Yields pop sampleAmmo sampleAmmo ∧ RunsDry pop sampleGun 2 sampleAmmo 0 twoWorkers ∧
      RunsDry pop sampleGun 0 sampleAmmo 7 oneWorker) ∧
    ((watched pop sampleGun 2 sampleAmmo 0 twoWorkers).fired.map Prod.fst).Perm sampleAmmo ∧
    (watched pop sampleGun 2 sampleAmmo 0 twoWorkers).executor.tally = ⟨3, 1, 1, 1⟩ ∧
    (watched pop sampleGun 0 sampleAmmo 7 oneWorker).executor.tally = ⟨3, 1, 1, 1⟩ := by
  have hy : Yields pop sampleAmmo sampleAmmo := yields_list sampleAmmo
  obtain ⟨-, -, hperm, -, -, -, hsame⟩ := fires_each_once hy runsDry_twoWorkers
  refine ⟨⟨hy, runsDry_twoWorkers, runsDry_oneWorker⟩, hperm, rfl, ?_⟩
  refine hsame (fun m => if m.marker = "a" then .measured else if m.marker = "b" then .skipped
    else .failed) (fun gun m r hr => ?_) 0 7 oneWorker runsDry_oneWorker
  obtain rfl := ShotEnd.returned.inj hr
  by_cases ha : m.marker = "a"
  · simp only [ha, if_true]
    rfl
  · by_cases hb : m.marker = "b" <;> simp only [ha, hb, if_true, if_false] <;> rfl

end Executor

end Volley
