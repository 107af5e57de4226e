import Volley.Ammo.Reader
import Volley.Gun.Fired
import Volley.Gun.Timeout

/-!
# The executor

Workers share one supply of missiles and one gun. A worker looks at the stop signal, pulls a
missile, fires it, counts what came of it, and begins again; it is gone once the signal is raised,
the supply is empty, or the gun panics. The gun is set up before the first missile is pulled and
torn down after the last worker is gone. What runs when is told by events, so a run is any sequence
of them.
-/

namespace Volley

/-- How a shot ends. -/
inductive ShotEnd where
  | returned (result : Except Fault Fired)
  | panicked

/-- What a gun with states `σ` does. -/
structure GunOps (σ : Type) where
  setup : σ → Except Abort Unit × σ
  shoot : σ → Missile → ShotEnd × σ
  teardown : σ → Except Fault Unit × σ

/-- What was counted in a run.
mirrors executor:37-48 (`ExecutionSummary`) -/
structure ShotTally where
  /-- The missiles that were pulled. -/
  shots : Nat
  measured : Nat
  skipped : Nat
  failed : Nat
  deriving DecidableEq, Repr, Inhabited

namespace ShotTally

def zero : ShotTally := ⟨0, 0, 0, 0⟩

def count (t : ShotTally) : Except Fault Fired → ShotTally
  | .ok .measured => { t with measured := t.measured + 1 }
  | .ok .skipped => { t with skipped := t.skipped + 1 }
  | .error _ => { t with failed := t.failed + 1 }

end ShotTally

/-- What a worker does next. -/
inductive Worker where
  /-- Looks at the stop signal. -/
  | checking
  | pulling
  | firing (m : Missile)
  | counting (result : Except Fault Fired)
  | gone

def Worker.isGone : Worker → Bool
  | .gone => true
  | _ => false

/-- Where a run stands. -/
inductive RunPhase where
  | ready
  | shooting
  | done (result : Except Abort Unit)

/-- A run over a supply with states `α` with a gun with states `σ`.
mirrors executor:62-65 (`ShootingExecutor`) -/
structure Executor (α σ : Type) where
  ammo : α
  gun : σ
  stopped : Bool
  /-- How many workers the run has. -/
  size : Nat
  workers : List Worker
  tally : ShotTally
  phase : RunPhase

/-- What may happen in a run. -/
inductive RunEvent where
  /-- Setup, or teardown once all workers are gone. -/
  | advance
  /-- The next step of a worker. -/
  | worker (index : Nat)
  /-- The stop signal is raised. -/
  | stop
  deriving DecidableEq, Repr

namespace Executor

variable {α σ : Type}

/-- A run before its setup, with one worker at least. -/
def start (workers : Nat) (ammo : α) (gun : σ) (stopped : Bool) : Executor α σ :=
  ⟨ammo, gun, stopped, max workers 1, [], .zero, .ready⟩

def isDone (e : Executor α σ) : Bool :=
  match e.phase with
  | .done _ => true
  | _ => false

/-- Sets what a worker does next. -/
def move (e : Executor α σ) (index : Nat) (w : Worker) : Executor α σ :=
  { e with workers := e.workers.set index w }

def allGone (e : Executor α σ) : Bool := e.workers.all Worker.isGone

/-- The next step of a worker.
mirrors executor:134-173 (`shoot_until_empty`) -/
def work (next : α → Option Missile × α) (ops : GunOps σ) (e : Executor α σ) (index : Nat) :
    Executor α σ :=
  match e.workers[index]? with
  | some .checking => e.move index (if e.stopped then .gone else .pulling)
  | some .pulling =>
    match next e.ammo with
    | (none, ammo) => { e with ammo }.move index .gone
    | (some m, ammo) =>
      { e with ammo, tally := { e.tally with shots := e.tally.shots + 1 } }.move index (.firing m)
  | some (.firing m) =>
    match ops.shoot e.gun m with
    | (.returned r, gun) => { e with gun }.move index (.counting r)
    | (.panicked, gun) => { e with gun }.move index .gone
  | some (.counting r) => { e with tally := e.tally.count r }.move index .checking
  | _ => e

/-- Sets up, or tears down, if it is time for it.
mirrors executor:82-131 (`ShootingExecutor::run`) -/
def advance (ops : GunOps σ) (e : Executor α σ) : Executor α σ :=
  match e.phase with
  | .ready =>
    match ops.setup e.gun with
    | (.ok _, gun) =>
      { e with gun, workers := List.replicate e.size .checking, phase := .shooting }
    | (.error a, gun) => { e with gun, phase := .done (.error a) }
  | .shooting =>
    if e.allGone then
      let (r, gun) := ops.teardown e.gun
      { e with gun, phase := .done (Abort.lift r) }
    else e
  | .done _ => e

/-- One event. -/
def step (next : α → Option Missile × α) (ops : GunOps σ) (e : Executor α σ) :
    RunEvent → Executor α σ
  | .advance => e.advance ops
  | .worker i => e.work next ops i
  | .stop => { e with stopped := true }

/-- A sequence of events. -/
def play (next : α → Option Missile × α) (ops : GunOps σ) (e : Executor α σ)
    (events : List RunEvent) : Executor α σ :=
  events.foldl (fun e event => e.step next ops event) e

/-- The events from a worker's look at the signal to the end of its count. -/
def turn (index : Nat) : List RunEvent := List.replicate 4 (.worker index)

/-- Events in which every worker has one turn. -/
def round (workers : Nat) : List RunEvent := (List.range workers).flatMap turn ++ [.advance]

end Executor

end Volley
