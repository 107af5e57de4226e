import Volley.Config.Basic
import Volley.Executor
import Volley.Gun.Basic
import Volley.Phout.Writer

/-!
# Runs

A run fires the ammunition of a configuration while the writer takes the records out of the channel.
The two take steps in any order. When the executor is done the last sender goes, so the writer comes
to its end; then the run is reported.
-/

namespace Volley

/-- What a run comes to.
mirrors app:25-33 (`RunReport`) -/
structure RunReport where
  gun : GunKind
  elapsed : Span
  shots : ShotTally
  channel : Tally
  writer : Phout.WriterTally
  phoutFile : String
  /-- The stop signal was raised. -/
  interrupted : Bool
  deriving DecidableEq, Repr

/-- The records that did not get to the file.
mirrors app:37-39 (`RunReport::lost`) -/
def RunReport.lost (r : RunReport) : Nat := r.channel.lost

/-- A gun and the world it acts on. -/
structure Armed where
  gun : Gun
  world : World

/-- The gun's operations, with the files that its setup may read. -/
def Armed.ops (fs : FileSystem) : GunOps Armed where
  setup a :=
    let (r, gun, world) := a.gun.setup fs a.world
    (r, ⟨gun, world⟩)
  shoot a m :=
    let (r, gun, world) := a.gun.shoot m a.world
    (.returned r, ⟨gun, world⟩)
  teardown a :=
    let (r, gun, world) := a.gun.teardown a.world
    (r, ⟨gun, world⟩)

/-- A run in progress. -/
structure Session where
  config : Config
  executor : Executor AmmoReader Armed
  writer : Phout.Writer
  files : FileSystem
  started : Clock.Reading
  /-- The channel's counts and the time, as of when the executor was done. -/
  closing : Option (Tally × Clock.Reading)

/-- What may happen in a run. -/
inductive SessionEvent where
  | executor (event : RunEvent)
  | writer
  /-- The counts are taken and the last sender goes, once the executor is done. -/
  | close
  deriving DecidableEq, Repr

namespace Session

def world (s : Session) : World := s.executor.gun.world

/-- Puts a channel in the place of the one there is. -/
def withChannel (s : Session) (channel : Channel) : Session :=
  let world := { s.world with channel }
  { s with executor := { s.executor with gun := { s.executor.gun with world } } }

/-- Puts a clock in the place of the one there is. -/
def withClock (s : Session) (clock : Clock) : Session :=
  let world := { s.world with clock }
  { s with executor := { s.executor with gun := { s.executor.gun with world } } }

/-- Opens the ammunition, makes the file, and builds the gun; the files as they are then.
mirrors app:62-110 (`App::run`) -/
def start (c : Config) (fs : FileSystem) (w : World) (stopped : Bool) :
    Except Abort Session × FileSystem :=
  let opened : Except Fault (GunKind × AmmoReader × Phout.Writer × FileSystem) := do
    let kind ← c.gunKind
    let ammo ← AmmoReader.load fs c.ammoFile (← c.format) c.loops
    let (writer, fs) ← Phout.Writer.create fs c.phoutFile
    return (kind, ammo, writer, fs)
  match opened with
  | .error f => (.error (.fault f), fs)
  | .ok (kind, ammo, writer, fs) =>
    match Gun.build kind c.gunOptions with
    | .error a => (.error a, fs)
    | .ok gun =>
      let (started, w) := { w with channel := .create c.resultsCapacity }.look
      (.ok ⟨c, .start c.workers ammo ⟨gun, w⟩ stopped, writer, fs, started, none⟩, fs)

/-- Takes the counts and lets the last sender go. -/
def close (s : Session) : Session :=
  if s.executor.isDone && s.closing.isNone then
    let (now, w) := s.world.look
    let channel := w.channel.dropSender
    { s.withChannel channel with closing := some (w.channel.tally, now) }
  else s

/-- One event. -/
def step (s : Session) : SessionEvent → Session
  | .executor event =>
    { s with executor := s.executor.step AmmoReader.next (Armed.ops s.files) event }
  | .writer =>
    let (writer, channel, files) := s.writer.step s.world.channel s.files
    { s.withChannel channel with writer, files }
  | .close => s.close

/-- A sequence of events. -/
def play (s : Session) (events : List SessionEvent) : Session := events.foldl step s

/-- Lets the writer take all that waits. -/
def catchUp (s : Session) : Session :=
  s.play (List.replicate (s.world.channel.length + 3) .writer)

/-- One turn of a worker, and of the writer after it. -/
def turn (s : Session) (index : Nat) : Session :=
  (s.play ((Executor.turn index).map .executor)).catchUp

/-- One turn of every worker, and the teardown if it is time for it. -/
def round (s : Session) : Session :=
  ((List.range s.executor.size).foldl turn s).step (.executor .advance)

/-- Rounds until the executor is done, so many at most. -/
def rounds : Nat → Session → Session
  | 0, s => s
  | n + 1, s => if s.executor.isDone then s else rounds n s.round

/-- The rounds that suffice where the ammunition ends; without end, so many as are allowed. -/
def roundsOf (s : Session) (allowed : Nat) : Nat :=
  match s.executor.ammo.total with
  | some n => n + 2
  | none => allowed

/-- The setup. -/
def setUp (s : Session) : Session := (s.step (.executor .advance)).catchUp

/-- The end of a run whose executor is done: the writer takes what is left. -/
def windUp (s : Session) : Session := (s.catchUp.step .close).catchUp

/-- A run from its setup to its end. -/
def finish (s : Session) (allowed : Nat) : Session :=
  let ready := s.setUp
  (ready.rounds (ready.roundsOf allowed)).windUp

/-- The report of a run that came to its end: the executor is done, and so is the writer.
mirrors app:62-110 (`App::run`) -/
def report (s : Session) : Except Abort RunReport :=
  match s.executor.phase, s.closing, s.writer.phase with
  | .done (.ok _), some (channel, now), .done => do
    let gun ← Abort.lift s.config.gunKind
    return ⟨gun, now.since s.started, s.executor.tally, channel, s.writer.tally,
      s.config.phoutFile, s.executor.stopped⟩
  | .done (.error a), some _, .done => .error a
  | _, _, _ => .error (.fault (.internal "the run did not end"))

end Session

/-- What a run leaves behind. -/
structure RunOutcome where
  report : Except Abort RunReport
  files : FileSystem
  world : World

/-- Runs a configuration. -/
def Config.run (c : Config) (fs : FileSystem) (w : World) (stopped : Bool) (allowed : Nat) :
    RunOutcome :=
  match Session.start c fs w stopped with
  | (.error a, fs) => ⟨.error a, fs, w⟩
  | (.ok s, _) =>
    let s := s.finish allowed
    ⟨s.report, s.files, s.world⟩

end Volley
