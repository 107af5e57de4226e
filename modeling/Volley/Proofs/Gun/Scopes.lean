import Volley.Gun.Script
import Volley.Proofs.Script.Scopes

/-!
# The records of a script gun

What a script gun offers for a shot is decided by the scopes that the script opened in it. A script
that opened some leaves their records and no other, unless it breaks the engine, which is an error
of the enclosing shot; a shot without scopes is one record of its own, or none if no scenario is
there for it.

* `shoot_cases`: the ways that a shot goes.
* `shoot_withCount`: what was counted before a shot makes no difference to it.
* `accounts_for_scopes`: the records of any shot, after any requests to the gun.
-/
namespace Volley

namespace ScriptGun

open Extension (Engine ScriptUnit)
open Script (Machine Interrupt)

/-! ## The script's part of a shot -/

/-- The unit that shots run on: none where the engine is gone or was never there. -/
def unit? (g : ScriptGun) : Option ScriptUnit :=
  match g.slot.engine with
  | some ⟨_, _, .running u⟩ => some u
  | _ => none

/-- What the script of a shot comes to, and the machine after it. -/
def script? (g : ScriptGun) (m : Missile) (w : World) :
    Option (Except Interrupt (Except Fault ScriptUnit.Invocation) × Machine) :=
  g.unit?.map fun u =>
    (u.invokeRun (g.target m.marker).1 m.payload (g.target m.marker).2).run
      (u.machine (w.openShot m.marker).2)

/-- How many scopes the script opens in a shot. -/
def opened (g : ScriptGun) (m : Missile) (w : World) : Nat :=
  match g.script? m w with
  | some (_, machine) => machine.steps
  | none => 0

/-- The channel as the script of a shot leaves it. -/
def scriptChannel (g : ScriptGun) (m : Missile) (w : World) : Channel :=
  match g.script? m w with
  | some (_, machine) => machine.world.channel
  | none => w.channel

/-- The script of a shot breaks the engine. -/
def Breaks (g : ScriptGun) (m : Missile) (w : World) : Prop :=
  ∃ i machine, g.script? m w = some (.error i, machine)

/-- To look up the scenario of a shot runs no code of the script. -/
def FindsPlainly (g : ScriptGun) (m : Missile) (w : World) : Prop :=
  ∀ u, g.unit? = some u →
    u.FindsPlainly (g.target m.marker).1 (u.machine (w.openShot m.marker).2)

/-- Every scope that the script opens is one record on the channel that it leaves. -/
theorem emits_script (g : ScriptGun) (m : Missile) (w : World) :
    ∃ records : List Measurement, records.length = g.opened m w ∧
      g.scriptChannel m w = w.channel.offerAll records := by
  unfold opened scriptChannel script?
  cases g.unit? with
  | none => exact ⟨[], rfl, rfl⟩
  | some u =>
    obtain ⟨records, hchannel, hsteps⟩ := u.emits_invokeRun (g.target m.marker).1 m.payload
      (g.target m.marker).2 (u.machine (w.openShot m.marker).2)
    exact ⟨records, (hsteps.trans (Nat.zero_add _)).symm, hchannel⟩

/-! ## Shots -/

theorem tag_judge (r : ShotRecord) (call : ScriptUnit.Call) : (judge r call).1.tag = r.tag := by
  unfold judge
  dsimp only
  split
  · exact ShotRecord.tag_override _ _
  · rfl
  · rfl

theorem judge_ne_skipped (r : ShotRecord) (call : ScriptUnit.Call) :
    (judge r call).2 ≠ .ok .skipped := by
  unfold judge
  dsimp only
  split <;> exact nofun

/-- The end of a shot that is not skipped: without scopes one record under its marker, else none. -/
theorem settle_cases (shot : Shot) (call : ScriptUnit.Call) (w : World) :
    (settle shot call w).1 ≠ .ok .skipped ∧
      (1 ≤ call.steps → (settle shot call w).2.channel = w.channel) ∧
      (call.steps = 0 → ∃ record : Measurement, record.tag = shot.record.tag ∧
        (settle shot call w).2.channel = (w.channel.offer record).1) := by
  unfold settle
  by_cases hs : 0 < call.steps
  · rw [if_pos hs]
    refine ⟨fun h => ?_, fun _ => rfl, fun hz => absurd hs (by omega)⟩
    have h : call.invocation.map (fun _ => Fired.measured) = .ok .skipped := h
    cases hi : call.invocation with
    | ok i =>
      rw [hi] at h
      cases h
    | error f =>
      rw [hi] at h
      cases h
  · rw [if_neg hs]
    exact ⟨judge_ne_skipped _ _, fun h => absurd h hs, fun _ =>
      ⟨({ shot with record := (judge shot.record call).1 } : Shot).finish w.look.1,
        tag_judge _ _, rfl⟩⟩

/-- A call that is settled by its role: as any call, or as one that found no scenario. -/
theorem settleScenario_cases (g : ScriptGun) (shot : Shot) (call : ScriptUnit.Call) (w : World) :
    g.settleScenario shot call w = ((settle shot call w).1, g, (settle shot call w).2) ∨
      (call.invocation = .ok .notFound ∧ g.settleScenario shot call w =
        (.ok .skipped, { g with skipped := g.skipped + 1 }, w.closeShot shot .discarded)) := by
  unfold settleScenario
  split
  · rename_i h
    exact .inr ⟨h, rfl⟩
  · exact .inl rfl

/-- A shot of a gun with an engine: the engine does not run, or the script breaks it, or the call is
settled, unless it found no scenario. -/
theorem shoot_cases {g : ScriptGun} (hg : g.slot.engine.isSome = true) (m : Missile) (w : World) :
    let shot := (w.openShot m.marker).1
    (g.script? m w = none ∧ ∃ f g',
      g.shoot m w = (.error f, g', (w.openShot m.marker).2.closeShot shot.fail .completed) ∧
        g'.skipped = g.skipped ∧ g'.slot.engine.isSome = true) ∨
    (∃ i machine, g.script? m w = some (.error i, machine) ∧ ∃ f g',
      g.shoot m w = (.error f, g', machine.world.closeShot shot.fail .completed) ∧
        g'.skipped = g.skipped ∧ g'.slot.engine.isSome = true) ∨
    (∃ invocation machine, g.script? m w = some (.ok invocation, machine) ∧ ∃ call g' w',
      (g.shoot m w = ((settle shot call w').1, g', (settle shot call w').2) ∨
        (call.invocation = .ok .notFound ∧ g.shoot m w =
          (.ok .skipped, { g' with skipped := g'.skipped + 1 }, w'.closeShot shot .discarded))) ∧
      call.invocation = invocation ∧ call.steps = machine.steps ∧
        w'.channel = machine.world.channel ∧ g'.skipped = g.skipped ∧
        g'.slot.engine.isSome = true) := by
  intro shot
  obtain ⟨e, he⟩ := Option.isSome_iff_exists.mp hg
  have hcurrent : g.slot.current = .ok e := by simp only [Extension.Slot.current, he]
  obtain ⟨identity, unitName, state⟩ := e
  unfold script? unit? shoot
  rw [hcurrent, he]
  cases state with
  | broken => exact .inl ⟨rfl, _, _, rfl, rfl, rfl⟩
  | closed => exact .inl ⟨rfl, _, _, rfl, rfl, rfl⟩
  | running u =>
    refine .inr ?_
    dsimp only [Option.map_some, Engine.call, Engine.request]
    rw [ScriptUnit.call_eq]
    cases hr : (u.invokeRun (g.target m.marker).1 m.payload (g.target m.marker).2).run
        (u.machine (w.openShot m.marker).2) with
    | mk result machine =>
      cases result with
      | error i => exact .inl ⟨i, machine, rfl, _, _, rfl, rfl, rfl⟩
      | ok invocation =>
        refine .inr ⟨invocation, machine, rfl, ?_⟩
        dsimp only
        cases g.role with
        | custom => exact ⟨_, _, _, .inl rfl, rfl, rfl, rfl, rfl, rfl⟩
        | scenario =>
          exact ⟨_, _, _, settleScenario_cases _ _ _ _, rfl, rfl, rfl, rfl, rfl⟩
        | ultimate className param =>
          exact ⟨_, _, _, settleScenario_cases _ _ _ _, rfl, rfl, rfl, rfl, rfl⟩

/-- The script of a shot that found no scenario has done nothing, if it was looked up plainly. -/
theorem scriptChannel_notFound {g : ScriptGun} {m : Missile} {w : World} {machine : Machine}
    (hscript : g.script? m w = some (.ok (.ok .notFound), machine)) (h : g.FindsPlainly m w) :
    machine.world.channel = w.channel := by
  obtain ⟨u, hu, hrun⟩ := Option.map_eq_some_iff.mp hscript
  rw [ScriptUnit.invokeRun_notFound (h u hu) hrun]
  rfl

/-- The records of one shot. -/
theorem records_of_shot {g : ScriptGun} (hg : g.slot.engine.isSome = true) (m : Missile)
    (w : World) :
    ((g.shoot m w).1 = .ok .skipped → (g.shoot m w).2.1.skipped = g.skipped + 1 ∧
      (g.FindsPlainly m w → (g.shoot m w).2.2.channel = w.channel)) ∧
    ((g.shoot m w).1 ≠ .ok .skipped → (g.shoot m w).2.1.skipped = g.skipped) ∧
    (1 ≤ g.opened m w → ¬ g.Breaks m w → (g.shoot m w).2.2.channel = g.scriptChannel m w) ∧
    (g.Breaks m w → ∃ record : Measurement, record.tag = m.marker ∧ record.isSuccess = false ∧
      (g.shoot m w).2.2.channel = ((g.scriptChannel m w).offer record).1) ∧
    (g.opened m w = 0 → (g.shoot m w).1 ≠ .ok .skipped → ∃ record : Measurement,
      record.tag = m.marker ∧
        (g.shoot m w).2.2.channel = ((g.scriptChannel m w).offer record).1) := by
  -- The record of a shot whose engine is no more.
  have hfailed : ∀ w' : World, ∃ record : Measurement, record.tag = m.marker ∧
      record.isSuccess = false ∧
      (w'.closeShot (w.openShot m.marker).1.fail .completed).channel =
        (w'.channel.offer record).1 :=
    fun w' => ⟨(w.openShot m.marker).1.fail.finish w'.look.1, rfl,
      Figures.not_isSuccess_markFailed _, rfl⟩
  obtain ⟨hscript, f, g', hshot, hskipped, -⟩ | ⟨i, machine, hscript, f, g', hshot, hskipped, -⟩ |
    ⟨invocation, machine, hscript, call, g', w', hshot, hinvocation, hsteps, hchannel, hskipped,
      -⟩ := shoot_cases hg m w
  · obtain ⟨record, htag, -, hoffer⟩ := hfailed (w.openShot m.marker).2
    have hleft : g.scriptChannel m w = w.channel := by rw [scriptChannel, hscript]
    have hopened : g.opened m w = 0 := by rw [opened, hscript]
    rw [hshot, hleft, hopened]
    refine ⟨nofun, fun _ => hskipped, nofun, ?_, fun _ _ => ⟨record, htag, hoffer⟩⟩
    rintro ⟨i, machine, hbreak⟩
    cases hscript.symm.trans hbreak
  · obtain ⟨record, htag, hfail, hoffer⟩ := hfailed machine.world
    have hleft : g.scriptChannel m w = machine.world.channel := by rw [scriptChannel, hscript]
    rw [hshot, hleft]
    exact ⟨nofun, fun _ => hskipped, fun _ h => absurd ⟨i, machine, hscript⟩ h,
      fun _ => ⟨record, htag, hfail, hoffer⟩, fun _ _ => ⟨record, htag, hoffer⟩⟩
  · have hleft : g.scriptChannel m w = w'.channel := by rw [scriptChannel, hscript, hchannel]
    have hopened : g.opened m w = call.steps := by rw [opened, hscript, hsteps]
    have hends : ¬ g.Breaks m w := by
      rintro ⟨i, machine', hbreak⟩
      cases hscript.symm.trans hbreak
    obtain ⟨hne, hsome, hnone⟩ := settle_cases (w.openShot m.marker).1 call w'
    obtain hshot | ⟨hnotFound, hshot⟩ := hshot <;> rw [hshot, hleft, hopened]
    · exact ⟨fun h => absurd h hne, fun _ => hskipped, fun h _ => hsome h,
        fun h => absurd h hends, fun h _ => hnone h⟩
    · refine ⟨fun _ => ⟨congrArg (· + 1) hskipped, fun hplain => ?_⟩, fun h => absurd rfl h,
        fun _ _ => rfl, fun h => absurd h hends, fun _ h => absurd rfl h⟩
      rw [← hinvocation, hnotFound] at hscript
      exact hchannel.trans (scriptChannel_notFound hscript hplain)

/-! ## What was counted before -/

/-- The gun whose unit has counted so many scopes. -/
def withCount (g : ScriptGun) (count : Nat) : ScriptGun :=
  match g.slot.engine with
  | some ⟨identity, unitName, .running u⟩ =>
    let memory := { u.memory with steps := count }
    { g with slot := ⟨some ⟨identity, unitName, .running { u with memory }⟩⟩ }
  | _ => g

/-- Scopes that were counted before a shot make no difference to it. -/
theorem shoot_withCount (g : ScriptGun) (count : Nat) (m : Missile) (w : World) :
    (g.withCount count).shoot m w = g.shoot m w := by
  unfold withCount
  split
  · rename_i identity unitName u he
    have hcurrent : g.slot.current = .ok ⟨identity, unitName, .running u⟩ := by
      simp only [Extension.Slot.current, he]
    unfold shoot
    rw [hcurrent]
    dsimp only [Extension.Slot.current, Engine.call, Engine.request, target]
    rw [ScriptUnit.call_eq, ScriptUnit.call_eq]
    rfl
  · rfl

/-! ## Requests -/

/-- What a gun with an engine may be asked for: to load its module afresh, to run a hook of the
unit, or to fire. -/
inductive Request where
  | setup (fs : FileSystem)
  | initHook
  | setupHook (param : String)
  | teardownHook
  | shoot (m : Missile)

/-- Has the engine in use do something. -/
def onEngine (g : ScriptGun) (run : Engine → Engine) : ScriptGun :=
  { g with slot := ⟨g.slot.engine.map run⟩ }

/-- The gun after a request. -/
def serve (g : ScriptGun) (w : World) : Request → ScriptGun
  | .setup fs => (g.setup fs w).2.1
  | .initHook => g.onEngine fun e => (e.init g.options.toJson w).2.1
  | .setupHook param => g.onEngine fun e => (e.setup param w).2.1
  | .teardownHook => g.onEngine fun e => (e.teardown w).2.1
  | .shoot m => (g.shoot m w).2.1

/-- The gun after requests, each in the world of its time. -/
def serveAll (g : ScriptGun) (history : List (Request × World)) : ScriptGun :=
  history.foldl (fun g (request, w) => g.serve w request) g

theorem hasEngine_setup {g : ScriptGun} (hg : g.slot.engine.isSome = true) (fs : FileSystem)
    (w : World) : (g.setup fs w).2.1.slot.engine.isSome = true := by
  unfold setup
  split
  · exact hg
  · split
    · exact hg
    · rfl

theorem hasEngine_shoot {g : ScriptGun} (hg : g.slot.engine.isSome = true) (m : Missile)
    (w : World) : (g.shoot m w).2.1.slot.engine.isSome = true := by
  obtain ⟨-, f, g', hshot, -, he⟩ | ⟨i, machine, -, f, g', hshot, -, he⟩ |
    ⟨invocation, machine, -, call, g', w', hshot | ⟨-, hshot⟩, -, -, -, -, he⟩ :=
      shoot_cases hg m w <;>
    rw [hshot] <;>
    exact he

theorem hasEngine_serve {g : ScriptGun} (hg : g.slot.engine.isSome = true) (w : World)
    (request : Request) : (g.serve w request).slot.engine.isSome = true := by
  have hon : ∀ run, (g.onEngine run).slot.engine.isSome = true := fun run =>
    Option.isSome_map.trans hg
  cases request with
  | setup fs => exact hasEngine_setup hg fs w
  | initHook => exact hon _
  | setupHook param => exact hon _
  | teardownHook => exact hon _
  | shoot m => exact hasEngine_shoot hg m w

theorem hasEngine_serveAll (history : List (Request × World)) {g : ScriptGun}
    (hg : g.slot.engine.isSome = true) : (g.serveAll history).slot.engine.isSome = true := by
  induction history generalizing g with
  | nil => exact hg
  | cons request history ih => exact ih (hasEngine_serve hg request.2 request.1)

/-- **A shot accounts for the scopes of its script.** After any requests to a gun with an engine, in
whatever worlds: a skipped shot is counted, and offers nothing if its scenario was looked up
plainly. A script that opened scopes leaves one record for each and none for the enclosing shot,
unless it broke the engine: then the enclosing shot is one more record, a failed one under its
marker. A shot without scopes that was not skipped is one record under its marker. Nothing of this
depends on the scopes that were counted before. -/
theorem accounts_for_scopes {g₀ : ScriptGun} (hengine : g₀.slot.engine.isSome = true)
    (history : List (Request × World)) (m : Missile) (w : World) :
    let g := g₀.serveAll history
    let shot := g.shoot m w
    (shot.1 = .ok .skipped → shot.2.1.skipped = g.skipped + 1 ∧
      (g.FindsPlainly m w → shot.2.2.channel = w.channel)) ∧
    (shot.1 ≠ .ok .skipped → shot.2.1.skipped = g.skipped) ∧
    (∃ records : List Measurement, records.length = g.opened m w ∧
      g.scriptChannel m w = w.channel.offerAll records ∧
      (1 ≤ g.opened m w → ¬ g.Breaks m w → shot.2.2.channel = w.channel.offerAll records) ∧
      (g.Breaks m w → ∃ record : Measurement, record.tag = m.marker ∧ record.isSuccess = false ∧
        shot.2.2.channel = w.channel.offerAll (records ++ [record]))) ∧
    (g.opened m w = 0 → shot.1 ≠ .ok .skipped → ∃ record : Measurement, record.tag = m.marker ∧
      shot.2.2.channel = (w.channel.offer record).1) ∧
    ∀ count, (g.withCount count).shoot m w = shot := by
  intro g shot
  obtain ⟨hskip, hfired, hsome, hbroken, hnone⟩ :=
    records_of_shot (hasEngine_serveAll history hengine) m w
  obtain ⟨records, hlength, hleft⟩ := g.emits_script m w
  refine ⟨hskip, hfired, ⟨records, hlength, hleft, fun h hends => ?_, fun hbreak => ?_⟩,
    fun hzero hne => ?_, fun count => g.shoot_withCount count m w⟩
  · rw [← hleft]
    exact hsome h hends
  · obtain ⟨record, htag, hfail, hoffer⟩ := hbroken hbreak
    refine ⟨record, htag, hfail, ?_⟩
    rw [Channel.offerAll_append, ← hleft]
    exact hoffer
  · obtain ⟨record, htag, hoffer⟩ := hnone hzero hne
    obtain rfl : records = [] := List.eq_nil_of_length_eq_zero (hlength.trans hzero)
    rw [show w.channel = g.scriptChannel m w from hleft.symm]
    exact ⟨record, htag, hoffer⟩

/-! ## Two guns -/

open Script (Module Expr Stmt)

def sampleWorld : World := .quiet 64

/-- The unit of a module that was run, if the module has what its shape asks for. -/
def unitOf (spec : Extension.Spec) (module : Module) : Option ScriptUnit :=
  let (_, m) := Extension.runTree module { Script.Memory.start ⟨11, 0⟩ with world := sampleWorld }
  match Extension.treeEngine.resolve spec.shape.symbol m with
  | (some (.ok (some entry)), m) => some ⟨spec, m.toMemory, entry, none⟩
  | _ => none

/-- A gun that has loaded a module. -/
def loaded (role : Role) (module : Module) : ScriptGun :=
  let slot : Extension.Slot :=
    match unitOf ⟨"m.js", "m", "m", role.shape⟩ module with
    | some u => ⟨some ⟨"m", "m", .running u⟩⟩
    | none => .empty
  ⟨role, "m.js", "m", .ofList [("module_name", "m"), ("module_path", ".")], slot, 0⟩

/-- A scope with nothing in it. -/
def step (marker : String) : Stmt := .expr (.measure [.literal (.string marker), .thunk []])

/-- One scenario, with two scopes. -/
def twoSteps : ScriptGun :=
  loaded .scenario [.binding .const "SCENARIOS"
    (.object [("buy", .function [step "first", step "second"])])]

/-- A shot that finds no scenario. -/
def oneSkip : List (Request × World) := [(.shoot ⟨"p", "sell"⟩, sampleWorld)]

theorem accounts_for_scopes_twoSteps :
    (twoSteps.slot.engine.isSome = true ∧ (twoSteps.serveAll oneSkip).skipped = 1 ∧
      ((twoSteps.serveAll oneSkip).shoot ⟨"p", "buy#2"⟩ sampleWorld).2.2.channel.queue.map (·.tag) =
        ["first", "second"]) ∧
    ∃ records : List Measurement, records.length = 2 ∧
      ((twoSteps.serveAll oneSkip).shoot ⟨"p", "buy#2"⟩ sampleWorld).2.2.channel =
        sampleWorld.channel.offerAll records := by
  have hengine : twoSteps.slot.engine.isSome = true := by decide +kernel
  have hopened : (twoSteps.serveAll oneSkip).opened ⟨"p", "buy#2"⟩ sampleWorld = 2 := by
    decide +kernel
  have hsome : 1 ≤ (twoSteps.serveAll oneSkip).opened ⟨"p", "buy#2"⟩ sampleWorld := by
    rw [hopened]
    decide
  have hends : ¬ (twoSteps.serveAll oneSkip).Breaks ⟨"p", "buy#2"⟩ sampleWorld := by
    have hok : (((twoSteps.serveAll oneSkip).script? ⟨"p", "buy#2"⟩ sampleWorld).map
        fun r => r.1.toOption.isSome) = some true := by decide +kernel
    rintro ⟨i, machine, hbreak⟩
    rw [hbreak] at hok
    cases hok
  obtain ⟨-, -, ⟨records, hlength, -, hoffered, -⟩, -⟩ := accounts_for_scopes hengine oneSkip
    ⟨"p", "buy#2"⟩ sampleWorld
  exact ⟨⟨hengine, by decide +kernel, by decide +kernel⟩, records, hlength.trans hopened,
    hoffered hsome hends⟩

/-- A function that opens a scope and then returns an object with an undefined member. -/
def brokenStep : ScriptGun :=
  loaded .custom [.function "shoot" [step "step", .return (.object [("k", .undefined)])]]

/-- The script of the shot opens one scope, but the shot is not one record: the engine breaks, and
the enclosing shot is another. -/
theorem brokenStep_adds_record :
    brokenStep.slot.engine.isSome = true ∧ brokenStep.opened ⟨"p", "outer"⟩ sampleWorld = 1 ∧
    (brokenStep.shoot ⟨"p", "outer"⟩ sampleWorld).2.2.channel.queue.map (·.tag) =
      ["step", "outer"] ∧
    ¬ ∃ records : List Measurement,
      records.length = brokenStep.opened ⟨"p", "outer"⟩ sampleWorld ∧
        (brokenStep.shoot ⟨"p", "outer"⟩ sampleWorld).2.2.channel =
          sampleWorld.channel.offerAll records := by
  have hopened : brokenStep.opened ⟨"p", "outer"⟩ sampleWorld = 1 := by decide +kernel
  have hoffered : (brokenStep.shoot ⟨"p", "outer"⟩ sampleWorld).2.2.channel.tally.offered = 2 := by
    decide +kernel
  refine ⟨by decide +kernel, hopened, by decide +kernel, ?_⟩
  rintro ⟨records, hlength, hchannel⟩
  rw [hchannel, Channel.offered_offerAll, hlength, hopened] at hoffered
  exact absurd hoffered (by decide)

end ScriptGun

end Volley
