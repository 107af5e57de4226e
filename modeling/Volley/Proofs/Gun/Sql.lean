import Volley.Gun.Sql
import Volley.Proofs.Sql.Refusals

/-!
# The life of an SQL gun

The first setup that succeeds connects the pool of the gun, and the first teardown after it closes
the pool. The pool stays in its place: a later setup finds it there and succeeds without doing
anything, and the shots that follow are on record as successes while no statement is executed.

Nothing is assumed of the database and its driver but what is promised of closed pools
(`Driver.TellsClosed`): connections, statements and setups may fail at any time.

* `step_of_none`, `step_of_pool`: what each use does to the pool.
* `at_run`: the stage that a gun is in after any uses.
* `shoot_of_ready`, `shoot_of_closed`: a shot in a gun that has a pool.
* `executes_until_teardown`: what a shot does in each stage.
* `closedPool_reported_success`: a gun that was set up again.
-/
namespace Volley.SqlGun

open Sql (Pool Driver DriverFault Request)

/-! ## Requests -/

/-- A pool that was just connected is not closed. -/
theorem connect_world (w : World) (address : String) (size : Nat) (timeout : Span) :
    (∀ pool, (w.connect address size timeout).1 = .ok pool →
      pool.isClosed (w.connect address size timeout).2.databases.asked = false) ∧
    (w.connect address size timeout).2.databases.driver = w.databases.driver := by
  refine ⟨fun pool h => ?_, rfl⟩
  have hpool : pool = ⟨w.databases.asked.length⟩ := by
    simp only [World.connect, Sql.Databases.connect] at h
    cases hc : w.databases.driver.connect w.databases.asked address size timeout with
    | error e =>
      rw [hc] at h
      cases h
    | ok u =>
      rw [hc] at h
      exact (Except.ok.inj h).symm
  show pool.isClosed (.connect address size timeout :: w.databases.asked) = false
  rw [hpool, Pool.isClosed]
  simp

section
variable {d : Sql.Databases} {pool : Pool}

/-- A statement that is refused a connection is not executed. -/
theorem fetchAll_of_refused {e : DriverFault} (h : d.driver.acquire d.asked pool = .error e)
    (statement : String) : d.fetchAll pool statement = (.error e, d.ask (.acquire pool)) := by
  unfold Sql.Databases.fetchAll
  rw [h]

/-- A statement is executed on the connection that it gets. -/
theorem fetchAll_of_given (h : d.driver.acquire d.asked pool = .ok ⟨⟩) (statement : String) :
    d.fetchAll pool statement =
      (d.driver.execute (.acquire pool :: d.asked) pool statement,
        (d.ask (.acquire pool)).ask (.execute pool statement)) := by
  unfold Sql.Databases.fetchAll
  rw [h]
  rfl

/-- No statement changes whether a pool is closed, nor what the driver is. -/
theorem fetchAll_keeps (d : Sql.Databases) (pool other : Pool) (statement : String) :
    pool.isClosed (d.fetchAll other statement).2.asked = pool.isClosed d.asked ∧
      (d.fetchAll other statement).2.driver = d.driver := by
  cases hacquire : d.driver.acquire d.asked other with
  | error e =>
    rw [fetchAll_of_refused hacquire]
    exact ⟨rfl, rfl⟩
  | ok u =>
    rw [fetchAll_of_given hacquire]
    exact ⟨rfl, rfl⟩

/-- No statement finds an open pool closed. -/
theorem fetchAll_ne_poolClosed (hdriver : d.driver.TellsClosed)
    (hopen : pool.isClosed d.asked = false) (statement : String) :
    (d.fetchAll pool statement).1 ≠ .error .poolClosed := by
  cases hacquire : d.driver.acquire d.asked pool with
  | error e =>
    rw [fetchAll_of_refused hacquire]
    intro hclosed
    cases hclosed
    cases hopen.symm.trans ((hdriver.acquire d.asked pool).mp hacquire)
  | ok u =>
    rw [fetchAll_of_given hacquire]
    exact hdriver.execute _ pool statement

end

/-! ## Shots -/

/-- The record of a shot whose statement was answered so. -/
def recordOf (m : Missile) (start stop : Clock.Reading) (rows : Except DriverFault Nat) :
    Measurement :=
  let shot := Shot.begin m.marker start
  let sized := { shot.record with sizeOut := UInt64.ofNat m.payload.utf8ByteSize }
  { shot with record := recordRows sized rows }.finish stop

/-- A shot is measured: its record is offered to the channel. -/
structure Measured (g : SqlGun) (m : Missile) (w : World) (r : Measurement) : Prop where
  answer : (g.shoot m w).1 = .ok .measured
  offered : (g.shoot m w).2.channel = (w.channel.offer r).1
  tag : r.tag = m.marker

theorem tag_recordOf (m : Missile) (start stop : Clock.Reading) (rows : Except DriverFault Nat) :
    (recordOf m start stop rows).tag = m.marker := by
  cases rows with
  | ok n => rfl
  | error e =>
    show (recordRefusal _ e.effect).tag = _
    cases e.effect <;> rfl

theorem measured_of_pool {g : SqlGun} {pool : Pool} (hp : g.pool = some pool) (m : Missile)
    (w : World) : ∃ start stop,
      Measured g m w (recordOf m start stop (w.databases.fetchAll pool m.payload).1) ∧
      (g.shoot m w).2.databases = (w.databases.fetchAll pool m.payload).2 := by
  refine ⟨w.look.1, w.look.2.look.1, ⟨?_, ?_, tag_recordOf _ _ _ _⟩, ?_⟩
  · rw [shoot, hp]
  · rw [shoot, hp]
    rfl
  · rw [shoot, hp]
    rfl

theorem shoot_of_none {g : SqlGun} (hp : g.pool = none) (m : Missile) (w : World) :
    g.shoot m w = (.error (.gunConfig "SQL gun used before setup"), w) := by
  unfold shoot
  rw [hp]

/-- The codes of a record that tells of a refusal. -/
def codesOf : Sql.Effect → Int32 × Int32
  | .timedOut => (Code.netTimedOut, Code.protoOk)
  | .resourceClosed => (Code.netOk, Code.protoOk)
  | .warning => (Code.netOk, Code.protoWarning)
  | .failed => (Code.netOk, Code.protoError)

/-- The codes of a record tell what came of a statement, and its size how many rows. -/
def Tells (r : Measurement) : Except DriverFault Nat → Prop
  | .ok rows => r.isSuccess = true ∧ r.sizeIn = UInt64.ofNat rows
  | .error e => r.isSuccess = false ∧ (r.netCode, r.protoCode) = codesOf e.effect

theorem effect_eq_resourceClosed {e : DriverFault} :
    e.effect = .resourceClosed ↔ e = .poolClosed := by
  cases e <;> simp [DriverFault.effect]

theorem tells_recordOf (m : Missile) (start stop : Clock.Reading)
    {rows : Except DriverFault Nat} (h : rows ≠ .error .poolClosed) :
    Tells (recordOf m start stop rows) rows := by
  cases rows with
  | ok n => exact ⟨rfl, rfl⟩
  | error e =>
    have hopen : e.effect ≠ .resourceClosed := fun he =>
      h (congrArg Except.error (effect_eq_resourceClosed.mp he))
    simp only [Tells, recordOf, recordRows]
    cases he : e.effect with
    | resourceClosed => exact absurd he hopen
    | _ => exact ⟨rfl, rfl⟩

/-! ## Uses -/

/-- What is done to a gun. -/
inductive Use where
  | setup
  | shoot (m : Missile)
  | teardown
  deriving DecidableEq

/-- A gun in a world. -/
structure Service where
  gun : SqlGun
  world : World

namespace Service

/-- The requests to the databases so far. -/
def asked (s : Service) : List Request := s.world.databases.asked

def driver (s : Service) : Driver := s.world.databases.driver

/-- A setup now. -/
def setup (s : Service) : Except Fault Unit × SqlGun × World := s.gun.setup s.world

end Service

def step (s : Service) : Use → Service
  | .setup => ⟨s.setup.2.1, s.setup.2.2⟩
  | .shoot m => { s with world := (s.gun.shoot m s.world).2 }
  | .teardown => { s with world := s.gun.teardown s.world }

def run (s : Service) (us : List Use) : Service := us.foldl step s

theorem setup_of_pool {s : Service} {pool : Pool} (hp : s.gun.pool = some pool) :
    s.setup = (.ok ⟨⟩, s.gun, s.world) := by
  unfold Service.setup setup
  rw [hp]

/-- A setup without a pool asks for one. -/
theorem setup_of_none {s : Service} (hp : s.gun.pool = none) :
    ((∃ pool, s.setup.1 = .ok ⟨⟩ ∧ s.setup.2.1.pool = some pool ∧
        pool.isClosed s.setup.2.2.databases.asked = false) ∨
      (s.setup.1 ≠ .ok ⟨⟩ ∧ s.setup.2.1 = s.gun)) ∧
    s.setup.2.2.databases.driver = s.driver := by
  obtain ⟨hopen, hdriver⟩ := connect_world s.world s.gun.address s.gun.poolSize s.gun.timeout
  unfold Service.setup setup
  rw [hp]
  dsimp only
  generalize s.world.connect s.gun.address s.gun.poolSize s.gun.timeout = connected at hopen hdriver
  obtain ⟨e | pool, w⟩ := connected
  · exact ⟨.inr ⟨nofun, rfl⟩, hdriver⟩
  · exact ⟨.inl ⟨pool, rfl, rfl, hopen pool rfl⟩, hdriver⟩

/-- Without a pool only a setup that succeeds does anything: it connects one. -/
theorem step_of_none {s : Service} (hp : s.gun.pool = none) (u : Use) :
    (u = .setup ∧ s.setup.1 = .ok ⟨⟩ ∧ ∃ pool, (step s u).gun.pool = some pool ∧
      pool.isClosed (step s u).asked = false) ∨
    ((u = .setup → s.setup.1 ≠ .ok ⟨⟩) ∧ (step s u).gun = s.gun) := by
  cases u with
  | setup =>
    obtain ⟨pool, hok, hgun, hopen⟩ | ⟨hfailed, hgun⟩ := (setup_of_none hp).1
    · exact .inl ⟨rfl, hok, pool, hgun, hopen⟩
    · exact .inr ⟨fun _ => hfailed, hgun⟩
  | shoot m => exact .inr ⟨nofun, rfl⟩
  | teardown => exact .inr ⟨nofun, rfl⟩

/-- A pool stays in its place. Only a teardown closes it, and nothing opens it again. -/
theorem step_of_pool {s : Service} {pool : Pool} (hp : s.gun.pool = some pool) (u : Use) :
    (step s u).gun = s.gun ∧
      pool.isClosed (step s u).asked = (u = .teardown || pool.isClosed s.asked) := by
  cases u with
  | setup =>
    rw [step, setup_of_pool hp]
    exact ⟨rfl, by simp⟩
  | shoot m =>
    obtain ⟨start, stop, -, hdatabases⟩ := measured_of_pool hp m s.world
    refine ⟨rfl, ?_⟩
    show pool.isClosed (s.gun.shoot m s.world).2.databases.asked = _
    rw [hdatabases, (fetchAll_keeps _ _ _ _).1]
    simp [Service.asked]
  | teardown =>
    refine ⟨rfl, ?_⟩
    show pool.isClosed (s.gun.teardown s.world).databases.asked = _
    rw [teardown, hp]
    simp [World.closePool, Sql.Databases.close, Sql.Databases.ask, Pool.isClosed]

theorem driver_step (s : Service) (u : Use) : (step s u).driver = s.driver := by
  cases hp : s.gun.pool with
  | none =>
    cases u with
    | setup => exact (setup_of_none hp).2
    | shoot m => rw [step, shoot_of_none hp]
    | teardown => rw [step, teardown, hp]
  | some pool =>
    cases u with
    | setup => rw [step, setup_of_pool hp]
    | shoot m =>
      obtain ⟨start, stop, -, hdatabases⟩ := measured_of_pool hp m s.world
      show (s.gun.shoot m s.world).2.databases.driver = _
      rw [hdatabases, (fetchAll_keeps _ pool _ _).2]
      rfl
    | teardown => rw [step, teardown, hp]; rfl

theorem driver_run (us : List Use) (s : Service) : (run s us).driver = s.driver := by
  induction us generalizing s with
  | nil => rfl
  | cons u us ih => exact (ih (step s u)).trans (driver_step s u)

/-! ## Stages -/

/-- Where a gun stands in its life. -/
inductive Stage where
  /-- No setup has succeeded yet. -/
  | fresh
  /-- A setup has succeeded, and no teardown came after the first that did. -/
  | ready
  /-- A teardown came after a setup that had succeeded. -/
  | closed
  deriving DecidableEq, Repr

/-- The stage after a use; `opened` tells whether a setup would succeed now. -/
def Stage.next (opened : Bool) : Stage → Use → Stage
  | .fresh, .setup => if opened then .ready else .fresh
  | .ready, .teardown => .closed
  | stage, _ => stage

/-- The stage after uses of a gun in a stage. -/
def stageAfter (s : Service) (stage : Stage) : List Use → Stage
  | [] => stage
  | u :: us => stageAfter (step s u) (stage.next s.setup.1.isOk u) us

/-- The stages tell how it is with the pool. -/
def At (s : Service) : Stage → Prop
  | .fresh => s.gun.pool = none
  | .ready => ∃ pool, s.gun.pool = some pool ∧ pool.isClosed s.asked = false
  | .closed => ∃ pool, s.gun.pool = some pool ∧ pool.isClosed s.asked = true

theorem at_step {s : Service} {stage : Stage} (h : At s stage) (u : Use) :
    At (step s u) (stage.next s.setup.1.isOk u) := by
  cases stage with
  | fresh =>
    obtain ⟨rfl, hok, hpool⟩ | ⟨hfailed, hstep⟩ := step_of_none h u
    · rw [hok]
      exact hpool
    · have hstay : Stage.fresh.next s.setup.1.isOk u = .fresh := by
        cases u with
        | setup =>
          cases hr : s.setup.1 with
          | ok _ => exact absurd hr (hfailed rfl)
          | error e => rfl
        | _ => rfl
      rw [hstay]
      show (step s u).gun.pool = none
      rw [hstep]
      exact h
  | ready =>
    obtain ⟨pool, hp, hopen⟩ := h
    obtain ⟨hstep, hclosed⟩ := step_of_pool hp u
    rw [hopen, Bool.or_false] at hclosed
    cases u <;> exact ⟨pool, hstep ▸ hp, hclosed⟩
  | closed =>
    obtain ⟨pool, hp, hgone⟩ := h
    obtain ⟨hstep, hclosed⟩ := step_of_pool hp u
    rw [hgone, Bool.or_true] at hclosed
    cases u <;> exact ⟨pool, hstep ▸ hp, hclosed⟩

theorem at_run (us : List Use) {s : Service} {stage : Stage} (h : At s stage) :
    At (run s us) (stageAfter s stage us) := by
  induction us generalizing s stage with
  | nil => exact h
  | cons u us ih => exact ih (at_step h u)

theorem stageAfter_append (us later : List Use) (s : Service) (stage : Stage) :
    stageAfter s stage (us ++ later) = stageAfter (run s us) (stageAfter s stage us) later := by
  induction us generalizing s stage with
  | nil => rfl
  | cons u us ih => exact ih (step s u) _

theorem stageAfter_closed (us : List Use) (s : Service) : stageAfter s .closed us = .closed := by
  induction us generalizing s with
  | nil => rfl
  | cons u us ih => exact ih (step s u)

theorem stageAfter_ready (us : List Use) (hus : .teardown ∉ us) (s : Service) :
    stageAfter s .ready us = .ready := by
  induction us generalizing s with
  | nil => rfl
  | cons u us ih =>
    rw [List.mem_cons, not_or] at hus
    have hstay : Stage.ready.next s.setup.1.isOk u = .ready := by
      cases u with
      | teardown => exact absurd rfl hus.1
      | _ => rfl
    rw [stageAfter, hstay]
    exact ih hus.2 (step s u)

/-- After a setup that succeeded, and before the next teardown, a gun is ready unless it had been
closed before that setup. -/
theorem stage_of_setup {s : Service} {before after : List Use}
    (hok : (run s before).setup.1 = .ok ⟨⟩) (hafter : .teardown ∉ after) :
    stageAfter s .fresh (before ++ .setup :: after) =
      if stageAfter s .fresh before = .closed then .closed else .ready := by
  rw [stageAfter_append, stageAfter, hok]
  cases stageAfter s .fresh before with
  | fresh => exact stageAfter_ready after hafter _
  | ready => exact stageAfter_ready after hafter _
  | closed => exact stageAfter_closed after _

/-! ## Shots in a stage -/

/-- A shot that asks its pool for a connection: it is measured, and its record tells what came of
its statement. -/
structure Fires (s : Service) (pool : Pool) (m : Missile) (r : Measurement) : Prop where
  measured : Measured s.gun m s.world r
  /-- A statement that is refused a connection is not executed. -/
  refused : ∀ e, s.driver.acquire s.asked pool = .error e →
    (step s (.shoot m)).asked = .acquire pool :: s.asked ∧ Tells r (.error e)
  /-- A statement that gets a connection is executed on it. -/
  executed : s.driver.acquire s.asked pool = .ok ⟨⟩ →
    (step s (.shoot m)).asked = .execute pool m.payload :: .acquire pool :: s.asked ∧
      Tells r (s.driver.execute (.acquire pool :: s.asked) pool m.payload)

/-- A record that is a success tells of a statement that was executed. -/
theorem Fires.of_success {s : Service} {pool : Pool} {m : Missile} {r : Measurement}
    (h : Fires s pool m r) (hr : r.isSuccess = true) :
    (step s (.shoot m)).asked = .execute pool m.payload :: .acquire pool :: s.asked := by
  cases hacquire : s.driver.acquire s.asked pool with
  | error e => cases hr.symm.trans (h.refused e hacquire).2.1
  | ok u => exact (h.executed hacquire).1

theorem shoot_of_ready {s : Service} (h : At s .ready) (hdriver : s.driver.TellsClosed)
    (m : Missile) : ∃ pool r, s.gun.pool = some pool ∧ Fires s pool m r := by
  obtain ⟨pool, hp, hopen⟩ := h
  obtain ⟨start, stop, hmeasured, hdatabases⟩ := measured_of_pool hp m s.world
  have hasked : (step s (.shoot m)).asked = (s.world.databases.fetchAll pool m.payload).2.asked :=
    congrArg Sql.Databases.asked hdatabases
  have htells := tells_recordOf m start stop (fetchAll_ne_poolClosed hdriver hopen m.payload)
  refine ⟨pool, _, hp, hmeasured, fun e hrefused => ?_, fun hgiven => ?_⟩
  · rw [fetchAll_of_refused hrefused] at hasked htells ⊢
    exact ⟨hasked, htells⟩
  · rw [fetchAll_of_given hgiven] at hasked htells ⊢
    exact ⟨hasked, htells⟩

/-- In a gun that is closed a setup succeeds without doing anything, and a shot is on record as a
success while no statement is executed. -/
theorem shoot_of_closed {s : Service} (h : At s .closed) (hdriver : s.driver.TellsClosed)
    (m : Missile) : s.setup = (.ok ⟨⟩, s.gun, s.world) ∧
      ∃ pool r, Measured s.gun m s.world r ∧ r.isSuccess = true ∧ r.sizeIn = 0 ∧
        (step s (.shoot m)).asked = .acquire pool :: s.asked := by
  obtain ⟨pool, hp, hgone⟩ := h
  obtain ⟨start, stop, hmeasured, hdatabases⟩ := measured_of_pool hp m s.world
  have hasked : (step s (.shoot m)).asked = (s.world.databases.fetchAll pool m.payload).2.asked :=
    congrArg Sql.Databases.asked hdatabases
  have hrefused := (hdriver.acquire s.asked pool).mpr hgone
  rw [fetchAll_of_refused hrefused] at hasked hmeasured
  exact ⟨setup_of_pool hp, pool, _, hmeasured, rfl, rfl, hasked⟩

theorem pool_build {o : Options} {g : SqlGun} (h : build o = .ok g) : g.pool = none := by
  unfold build at h
  obtain ⟨address, -, h⟩ := ok_of_bind h
  obtain ⟨poolSize, -, h⟩ := ok_of_bind h
  split at h
  · cases h
  · obtain ⟨timeout, -, h⟩ := ok_of_bind h
    cases h
    rfl

/-- **A gun executes statements until its pool is closed.** Before a setup has succeeded a shot is
an error and leaves all as it was. After that, and before the next teardown, a shot asks the pool
for a connection, executes its statement on the one that it gets, and the codes of its record tell
what came of it; a record that is a success stands for a statement that was executed. After that
teardown every setup succeeds without doing anything, and every shot is on record as a success while
no statement is executed. So a setup that succeeded makes a gun that executes statements exactly if
the gun had not been closed before. -/
theorem executes_until_teardown {o : Options} {g₀ : SqlGun} (hbuild : build o = .ok g₀) (w : World)
    (hdriver : w.databases.driver.TellsClosed) (us : List Use) (m : Missile) :
    let s := run ⟨g₀, w⟩ us
    let stage := stageAfter ⟨g₀, w⟩ .fresh us
    (stage = .fresh →
      s.gun.shoot m s.world = (.error (.gunConfig "SQL gun used before setup"), s.world)) ∧
    (stage = .ready → ∃ pool r, s.gun.pool = some pool ∧ Fires s pool m r ∧ (r.isSuccess = true →
      (step s (.shoot m)).asked = .execute pool m.payload :: .acquire pool :: s.asked)) ∧
    (stage = .closed → s.setup = (.ok ⟨⟩, s.gun, s.world) ∧
      ∃ pool r, Measured s.gun m s.world r ∧ r.isSuccess = true ∧ r.sizeIn = 0 ∧
        (step s (.shoot m)).asked = .acquire pool :: s.asked) ∧
    ∀ before after, us = before ++ .setup :: after →
      (run ⟨g₀, w⟩ before).setup.1 = .ok ⟨⟩ → .teardown ∉ after →
      stage = if stageAfter ⟨g₀, w⟩ .fresh before = .closed then .closed else .ready := by
  intro s stage
  have hfirst : At ⟨g₀, w⟩ .fresh := pool_build hbuild
  have hat : At s stage := at_run us hfirst
  have hpromise : s.driver.TellsClosed := by
    rw [driver_run]
    exact hdriver
  refine ⟨fun hfresh => ?_, fun hready => ?_, fun hclosed => ?_, ?_⟩
  · rw [hfresh] at hat
    exact shoot_of_none hat m s.world
  · rw [hready] at hat
    obtain ⟨pool, r, hp, hfires⟩ := shoot_of_ready hat hpromise m
    exact ⟨pool, r, hp, hfires, hfires.of_success⟩
  · rw [hclosed] at hat
    exact shoot_of_closed hat hpromise m
  · rintro before after hus hok hafter
    show stageAfter ⟨g₀, w⟩ .fresh us = _
    rw [hus]
    exact stage_of_setup hok hafter

/-- A gun for a database in memory, with one connection. -/
def memoryGun : SqlGun := ⟨"sqlite::memory:", 1, ⟨30, 0⟩, none⟩

def memoryOptions : Options := .ofList [("db", "sqlite::memory:"), ("pool_size", "1")]

def quietWorld : World := .quiet 8

/-- A shot too early, and one after the setup. -/
def earlyStart : List Use :=
  [.shoot ⟨"SELECT 1", "early"⟩, .setup, .shoot ⟨"CREATE TABLE t(n)", ""⟩]

theorem executes_until_teardown_earlyStart :
    let s := run ⟨memoryGun, quietWorld⟩ earlyStart
    let m : Missile := ⟨"SELECT count(*) FROM t", "count"⟩
    build memoryOptions = .ok memoryGun ∧ quietWorld.databases.driver.TellsClosed ∧
    ∃ pool r, Measured s.gun m s.world r ∧ r.isSuccess = true ∧ r.sizeIn = 1 ∧
      (step s (.shoot m)).asked = .execute pool m.payload :: .acquire pool :: s.asked := by
  intro s m
  have hbuild : build memoryOptions = .ok memoryGun := ok_of_toOption (by decide +kernel)
  have hdriver : quietWorld.databases.driver.TellsClosed := Sql.tellsClosed_driver 0
  obtain ⟨-, hready, -⟩ := executes_until_teardown hbuild quietWorld hdriver earlyStart m
  obtain ⟨pool, r, hp, hfires, -⟩ := hready (by decide +kernel)
  have hfirst : s.gun.pool = some ⟨0⟩ := by decide +kernel
  cases hp.symm.trans hfirst
  have hacquire : s.driver.acquire s.asked ⟨0⟩ = .ok ⟨⟩ := ok_of_toOption (by decide +kernel)
  obtain ⟨hasked, htells⟩ := hfires.executed hacquire
  have hrows : s.driver.execute (.acquire ⟨0⟩ :: s.asked) ⟨0⟩ m.payload = .ok 1 :=
    ok_of_toOption (by decide +kernel)
  rw [hrows] at htells
  exact ⟨hbuild, hdriver, ⟨0⟩, r, hfires.measured, htells.1, htells.2, hasked⟩

/-- A gun that was torn down is set up again with success. Its next shot is on record as a success
and executes nothing, and the database, had it been asked, would have refused the statement. -/
theorem closedPool_reported_success :
    let s := run ⟨memoryGun, quietWorld⟩ [.setup, .teardown]
    let m : Missile := ⟨"SELECT * FROM no_such_table", "broken"⟩
    let s' := step s .setup
    let shot := s'.gun.shoot m s'.world
    s.setup.1 = .ok ⟨⟩ ∧ shot.1 = .ok .measured ∧
      shot.2.channel.queue.map (fun r => (r.tag, r.netCode, r.protoCode)) =
        [("broken", 0, 200)] ∧
      (∀ pool, .execute pool m.payload ∉ shot.2.databases.asked) ∧
      (s'.driver.execute s'.asked ⟨0⟩ m.payload).toOption = none := by
  intro s m s' shot
  have hasked : shot.2.databases.asked =
      [.acquire ⟨0⟩, .close ⟨0⟩, .connect "sqlite::memory:" 1 ⟨30, 0⟩] := by decide +kernel
  refine ⟨ok_of_toOption (by decide +kernel), ok_of_toOption (by decide +kernel),
    by decide +kernel, fun pool => ?_, by decide +kernel⟩
  rw [hasked]
  simp

end Volley.SqlGun
