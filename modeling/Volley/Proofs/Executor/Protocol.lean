import Volley.Proofs.Executor.Pool

/-!
# The protocol of a run

An executor sets its gun up, has its workers pull, fire and count, and tears the gun down. Its acts
are what it did to the gun and to the supply, in order, each with what came of it. They are read off
the state before each event, and replaying them leads the gun from its first state to its last, so
none is missing and none is made up.

* `follows_step`, `follows_acts`: the shape of the acts in every phase of a run.
* `replays_acts`: the gun answered as the acts tell, and nobody else touched it.
* `run_follows_protocol`: setup first, teardown last and once, with every shot between them counted,
  and a run that fails exactly where one of the two does.
-/
namespace Volley

/-- What an executor does to its gun and its supply, and what comes of it. -/
inductive Act where
  | setup (result : Except Abort Unit)
  | pull (m : Missile)
  | fire (m : Missile) (ending : ShotEnd)
  | count (result : Except Fault Fired)
  | teardown (result : Except Fault Unit)

namespace Act

/-- The act is a worker's. -/
def isShooting : Act → Bool
  | pull _ | fire .. | count _ => true
  | setup _ | teardown _ => false

def pulled? : Act → Option Missile
  | pull m => some m
  | _ => none

def fired? : Act → Option (Missile × ShotEnd)
  | fire m ending => some (m, ending)
  | _ => none

def counted? : Act → Option Outcome
  | count r => some (.ofResult r)
  | _ => none

end Act

namespace Abort

theorem lift_ok {β : Type} (b : β) : lift (.ok b) = .ok b := rfl

theorem lift_error {β : Type} (f : Fault) :
    lift (.error f : Except Fault β) = .error (fault f) := rfl

end Abort

namespace Executor

variable {α σ : Type} (next : α → Option Missile × α) (ops : GunOps σ)

/-! ## The acts of a run -/

/-- What an event has the executor do. -/
def act? (e : Executor α σ) : RunEvent → Option Act
  | .advance =>
    match e.phase with
    | .ready => some (.setup (ops.setup e.gun).1)
    | .shooting => if e.allGone then some (.teardown (ops.teardown e.gun).1) else none
    | .done _ => none
  | .worker i =>
    match e.workers[i]? with
    | some .pulling => (next e.ammo).1.map .pull
    | some (.firing m) => some (.fire m (ops.shoot e.gun m).1)
    | some (.counting r) => some (.count r)
    | _ => none
  | .stop => none

/-- What a sequence of events has the executor do, in order. -/
def acts (e : Executor α σ) : List RunEvent → List Act
  | [] => []
  | event :: events => (e.act? next ops event).toList ++ (e.step next ops event).acts events

theorem phase_work (e : Executor α σ) (i : Nat) : (e.work next ops i).phase = e.phase := by
  obtain ⟨hw, -, -⟩ | ⟨before, after, e', -, hworks, hw⟩ := work_cases next ops e i <;> rw [hw]
  exact hworks.workers.2.2.1

/-- A worker acts while the run is on. -/
theorem shooting_of_act? {e : Executor α σ} (hstaff : Staffed e) {i : Nat} {act : Act}
    (h : e.act? next ops (.worker i) = some act) :
    act.isShooting = true ∧ e.phase = .shooting := by
  simp only [act?] at h
  split at h
  · rename_i hw
    obtain ⟨m, -, rfl⟩ := Option.map_eq_some_iff.mp h
    exact ⟨rfl, hstaff.shooting_of_worker hw rfl⟩
  · rename_i hw
    cases h
    exact ⟨rfl, hstaff.shooting_of_worker hw rfl⟩
  · rename_i hw
    cases h
    exact ⟨rfl, hstaff.shooting_of_worker hw rfl⟩
  · cases h

/-! ## Their shape -/

/-- The acts of a run that stands in a phase. -/
inductive Follows : RunPhase → List Act → Prop
  | ready : Follows .ready []
  | refused (a : Abort) : Follows (.done (.error a)) [.setup (.error a)]
  | shooting {shots : List Act} (h : ∀ act ∈ shots, act.isShooting = true) :
    Follows .shooting (.setup (.ok ⟨⟩) :: shots)
  | torn {shots : List Act} (h : ∀ act ∈ shots, act.isShooting = true)
    (result : Except Fault Unit) :
    Follows (.done (Abort.lift result)) (.setup (.ok ⟨⟩) :: (shots ++ [.teardown result]))

theorem follows_advance {e : Executor α σ} {acts : List Act} (h : Follows e.phase acts) :
    Follows (e.advance ops).phase (acts ++ (e.act? next ops .advance).toList) := by
  unfold advance act?
  cases hp : e.phase with
  | ready =>
    rw [hp] at h
    cases h
    cases hs : ops.setup e.gun with
    | mk result gun =>
      cases result with
      | ok u => exact .shooting nofun
      | error a => exact .refused a
  | shooting =>
    rw [hp] at h
    cases h with
    | shooting hshots =>
      dsimp only
      split
      · exact .torn hshots _
      · rw [hp, Option.toList_none, List.append_nil]
        exact .shooting hshots
  | done r =>
    rw [hp] at h
    dsimp only
    rw [hp, Option.toList_none, List.append_nil]
    exact h

theorem follows_step {e : Executor α σ} (hstaff : Staffed e) {acts : List Act}
    (h : Follows e.phase acts) (event : RunEvent) :
    Follows (e.step next ops event).phase (acts ++ (e.act? next ops event).toList) := by
  cases event with
  | advance => exact follows_advance next ops h
  | worker i =>
    rw [step, phase_work]
    cases hact : e.act? next ops (.worker i) with
    | none =>
      rw [Option.toList_none, List.append_nil]
      exact h
    | some act =>
      obtain ⟨hshooting, hphase⟩ := shooting_of_act? next ops hstaff hact
      rw [hphase] at h ⊢
      cases h with
      | shooting hshots =>
        refine .shooting fun a ha => ?_
        rcases List.mem_append.mp ha with ha | ha
        · exact hshots a ha
        · rw [List.mem_singleton.mp ha]
          exact hshooting
  | stop =>
    rw [act?, Option.toList_none, List.append_nil]
    exact h

theorem follows_acts (events : List RunEvent) {e : Executor α σ} (hstaff : Staffed e)
    {earlier : List Act} (h : Follows e.phase earlier) :
    Follows (e.play next ops events).phase (earlier ++ e.acts next ops events) := by
  induction events generalizing e earlier with
  | nil =>
    rw [acts, List.append_nil]
    exact h
  | cons event events ih =>
    rw [acts, ← List.append_assoc]
    exact ih (staffed_step next ops hstaff event) (follows_step next ops hstaff h event)

/-! ## The gun's part -/

/-- The gun goes from one state to the other by these acts, and answers as they tell. -/
inductive Replays : σ → List Act → σ → Prop
  | nil {gun : σ} : Replays gun [] gun
  | setup {gun last : σ} {acts : List Act} (h : Replays (ops.setup gun).2 acts last) :
    Replays gun (.setup (ops.setup gun).1 :: acts) last
  | fire {gun last : σ} {m : Missile} {acts : List Act}
    (h : Replays (ops.shoot gun m).2 acts last) :
    Replays gun (.fire m (ops.shoot gun m).1 :: acts) last
  | teardown {gun last : σ} {acts : List Act} (h : Replays (ops.teardown gun).2 acts last) :
    Replays gun (.teardown (ops.teardown gun).1 :: acts) last
  | pull {gun last : σ} {m : Missile} {acts : List Act} (h : Replays gun acts last) :
    Replays gun (.pull m :: acts) last
  | count {gun last : σ} {r : Except Fault Fired} {acts : List Act}
    (h : Replays gun acts last) : Replays gun (.count r :: acts) last

theorem replays_worker (e : Executor α σ) (i : Nat) {later : List Act} {last : σ}
    (h : Replays ops (e.work next ops i).gun later last) :
    Replays ops e.gun ((e.act? next ops (.worker i)).toList ++ later) last := by
  unfold work at h
  simp only [act?]
  cases hw : e.workers[i]? with
  | none =>
    rw [hw] at h
    exact h
  | some w =>
    rw [hw] at h
    cases w with
    | checking => exact h
    | pulling =>
      dsimp only at h ⊢
      cases hn : next e.ammo with
      | mk found ammo =>
        rw [hn] at h
        cases found with
        | none => exact h
        | some m => exact .pull h
    | firing m =>
      dsimp only at h ⊢
      refine .fire ?_
      cases hf : ops.shoot e.gun m with
      | mk ending gun =>
        rw [hf] at h
        cases ending <;> exact h
    | counting r => exact .count h
    | gone => exact h

theorem replays_advance (e : Executor α σ) {later : List Act} {last : σ}
    (h : Replays ops (e.advance ops).gun later last) :
    Replays ops e.gun ((e.act? next ops .advance).toList ++ later) last := by
  unfold advance at h
  simp only [act?]
  cases hp : e.phase with
  | ready =>
    rw [hp] at h
    dsimp only at h ⊢
    refine .setup ?_
    cases hs : ops.setup e.gun with
    | mk result gun =>
      rw [hs] at h
      cases result <;> exact h
  | shooting =>
    rw [hp] at h
    dsimp only at h ⊢
    by_cases hg : e.allGone = true
    · rw [if_pos hg] at h ⊢
      exact .teardown h
    · rw [if_neg hg] at h ⊢
      exact h
  | done r =>
    rw [hp] at h
    exact h

theorem replays_acts (events : List RunEvent) (e : Executor α σ) :
    Replays ops e.gun (e.acts next ops events) (e.play next ops events).gun := by
  induction events generalizing e with
  | nil => exact .nil
  | cons event events ih =>
    have hlater := ih (e.step next ops event)
    cases event with
    | advance => exact replays_advance next ops e hlater
    | worker i => exact replays_worker next ops e i hlater
    | stop => exact hlater

/-! ## What is pulled, fired and counted -/

/-- An act shows what its event pulls and fires. -/
theorem watch_act? (e : Executor α σ) (event : RunEvent) :
    (e.act? next ops event).bind Act.pulled? = e.pull? next event ∧
      (e.act? next ops event).bind Act.fired? = e.shot? ops event := by
  cases event with
  | advance =>
    simp only [act?, pull?, shot?]
    cases e.phase with
    | shooting =>
      dsimp only
      split <;> exact ⟨rfl, rfl⟩
    | _ => exact ⟨rfl, rfl⟩
  | worker i =>
    simp only [act?, pull?, shot?]
    cases e.workers[i]? with
    | none => exact ⟨rfl, rfl⟩
    | some w =>
      cases w with
      | pulling =>
        dsimp only
        cases (next e.ammo).1 <;> exact ⟨rfl, rfl⟩
      | _ => exact ⟨rfl, rfl⟩
  | stop => exact ⟨rfl, rfl⟩

theorem filterMap_toList {β γ : Type} (f : β → Option γ) (o : Option β) :
    o.toList.filterMap f = (o.bind f).toList := by
  cases o with
  | none => rfl
  | some b =>
    rw [Option.toList_some, Option.bind_some, List.filterMap_cons, List.filterMap_nil]
    cases f b <;> rfl

/-- What is watched in a run are its acts. -/
theorem watch_acts (events : List RunEvent) (w : Watch α σ) :
    (w.run next ops events).pulled =
        w.pulled ++ (w.executor.acts next ops events).filterMap Act.pulled? ∧
      (w.run next ops events).fired =
        w.fired ++ (w.executor.acts next ops events).filterMap Act.fired? := by
  induction events generalizing w with
  | nil => exact ⟨(List.append_nil _).symm, (List.append_nil _).symm⟩
  | cons event events ih =>
    obtain ⟨hpull, hshot⟩ := watch_act? next ops w.executor event
    rw [acts, List.filterMap_append, List.filterMap_append, filterMap_toList, filterMap_toList,
      hpull, hshot, ← List.append_assoc, ← List.append_assoc]
    exact ih (w.step next ops event)

/-- A count is an act. -/
theorem tallyOf_step (e : Executor α σ) (event : RunEvent) (o : Outcome) :
    (e.step next ops event).tally.tallyOf o =
      e.tally.tallyOf o + ((e.act? next ops event).bind Act.counted?).toList.count o := by
  cases event with
  | advance =>
    have hnone : (e.act? next ops .advance).bind Act.counted? = none := by
      simp only [act?]
      cases e.phase with
      | shooting =>
        dsimp only
        split <;> rfl
      | _ => rfl
    rw [hnone, step]
    obtain ⟨u, gun, -, -, ha⟩ | ⟨a, gun, -, -, ha⟩ | ⟨r, gun, -, -, -, ha⟩ | ha :=
      advance_cases ops e <;> rw [ha] <;> rfl
  | worker i =>
    rw [step]
    unfold work
    simp only [act?]
    cases e.workers[i]? with
    | none => rfl
    | some w =>
      cases w with
      | checking => rfl
      | pulling =>
        dsimp only
        cases next e.ammo with
        | mk found ammo =>
          cases found with
          | none => rfl
          | some m => exact ShotTally.tallyOf_shots _ _ o
      | firing m =>
        dsimp only
        cases ops.shoot e.gun m with
        | mk ending gun => cases ending <;> rfl
      | counting r => exact ShotTally.tallyOf_count _ r o
      | gone => rfl
  | stop => rfl

theorem tallyOf_play (events : List RunEvent) (e : Executor α σ) (o : Outcome) :
    (e.play next ops events).tally.tallyOf o =
      e.tally.tallyOf o + ((e.acts next ops events).filterMap Act.counted?).count o := by
  induction events generalizing e with
  | nil => rfl
  | cons event events ih =>
    rw [acts, List.filterMap_append, List.count_append, filterMap_toList, ← Nat.add_assoc,
      ← tallyOf_step]
    exact ih (e.step next ops event)

/-! ## The whole run -/

/-- A run fails where its setup or its teardown did, and with what they failed with. -/
theorem Follows.error_iff {r : Except Abort Unit} {acts : List Act} (h : Follows (.done r) acts)
    (a : Abort) :
    r = .error a ↔ Act.setup (.error a) ∈ acts ∨
      ∃ f, a = .fault f ∧ Act.teardown (.error f) ∈ acts := by
  cases h with
  | refused b =>
    constructor
    · rintro ⟨⟩
      exact .inl (List.mem_singleton_self _)
    · rintro (hmem | ⟨f, -, hmem⟩)
      · cases List.mem_singleton.mp hmem
        rfl
      · cases List.mem_singleton.mp hmem
  | torn hshots result =>
    have hsetup : Act.setup (.error a) ∉ _ := fun hmem => Bool.noConfusion (hshots _ hmem)
    have hteardown : ∀ f, Act.teardown (.error f) ∉ _ :=
      fun f hmem => Bool.noConfusion (hshots _ hmem)
    simp only [List.mem_cons, List.mem_append, List.not_mem_nil, hsetup, hteardown, or_false,
      false_or, reduceCtorEq, Act.setup.injEq, Act.teardown.injEq]
    cases result with
    | ok u => simp [Abort.lift_ok]
    | error f => simp [Abort.lift_error, eq_comm]

/-- **The protocol of a run.** Whatever the gun, the supply, the number of workers and the order of
their steps: the setup is the first act, and nothing is pulled or fired unless it succeeded; a
failed setup is the only act. The teardown is the last act and the only one of its kind, and it
comes as soon as it can once all workers are gone. By then every missile that was pulled was fired,
and every shot that returned was counted, whatever it came to. The run fails exactly where the setup
or the teardown did, with their error. -/
theorem run_follows_protocol (workers : Nat) (ammo : α) (gun : σ) (stopped : Bool)
    (events : List RunEvent) :
    let e := (start workers ammo gun stopped).play next ops events
    let acts := (start workers ammo gun stopped).acts next ops events
    Follows e.phase acts ∧ Replays ops gun acts e.gun ∧
      (e.phase = .shooting → e.allGone = true → ∃ result,
        e.act? next ops .advance = some (.teardown result) ∧
          (e.step next ops .advance).phase = .done (Abort.lift result)) ∧
      ∀ r, e.phase = .done r →
        ((acts.filterMap Act.fired?).map Prod.fst).Perm (acts.filterMap Act.pulled?) ∧
        (acts.filterMap Act.counted?).Perm
          ((acts.filterMap Act.fired?).filterMap (·.2.outcome?)) ∧
        ∀ a, r = .error a ↔ Act.setup (.error a) ∈ acts ∨
          ∃ f, a = .fault f ∧ Act.teardown (.error f) ∈ acts := by
  intro e acts
  let first : Executor α σ := start workers ammo gun stopped
  have hstaff : Staffed first := staffed_start workers ammo gun stopped
  have hfollows : Follows e.phase acts := follows_acts next ops events hstaff .ready
  refine ⟨hfollows, replays_acts next ops events first, fun hphase hgone => ?_, fun r hr => ?_⟩
  · refine ⟨(ops.teardown e.gun).1, ?_, ?_⟩
    · simp only [act?, hphase, hgone, if_true]
    · simp only [step, advance, hphase, hgone, if_true]
  · have htracks := tracks_run next ops events hstaff (tracks_start workers ammo gun stopped)
    obtain ⟨hpulled, hfired⟩ := watch_acts next ops events (Watch.start first)
    have hplayed : ((Watch.start first).run next ops events).executor = e :=
      Watch.executor_run next ops (Watch.start first) events
    have hgone : ((Watch.start first).run next ops events).executor.allGone = true := by
      rw [hplayed]
      exact (staffed_play next ops events hstaff).1.done r hr
    have hshots := htracks.fired_perm hgone
    have hcounts := htracks.tallyOf_eq hgone
    rw [hpulled, hfired] at hshots
    refine ⟨hshots, List.perm_iff_count.mpr fun o => ?_, (hr ▸ hfollows).error_iff⟩
    rw [hplayed, hfired] at hcounts
    have hzero : first.tally.tallyOf o = 0 := by cases o <;> rfl
    calc (acts.filterMap Act.counted?).count o
        = e.tally.tallyOf o := by rw [tallyOf_play, hzero, Nat.zero_add]
      _ = (acts.filterMap Act.fired?).countP fun shot => shot.2.outcome? == some o := hcounts o
      _ = ((acts.filterMap Act.fired?).filterMap (·.2.outcome?)).count o :=
          List.count_filterMap.symm

end Executor

end Volley
