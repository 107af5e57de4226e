import Volley.Program
import Volley.Sql.Memory

/-!
# The program

Reads what the command asks for from the system, lets the run take its turns against the system's
clock, writes the results as they come, and prints what the command ends with. All that is decided
is decided by the command.

Limitations: nothing listens on the network here, and the only databases are in memory.
-/

namespace Volley.Main

/-- Puts what a path leads to into the files, if it leads to anything. -/
def look (fs : FileSystem) (path : String) : IO FileSystem := do
  try
    return fs.put (FileSystem.place path) (.file (← IO.FS.readBinFile path).toList)
  catch
    | .inappropriateType .. => return fs.put (FileSystem.place path) .directory
    | _ => return fs

/-- The files that the command may look at: the environment file tells of the others. -/
def gather (launch : Launch) : IO FileSystem := do
  let fs ← (launch.paths .empty).foldlM look .empty
  (launch.paths fs).foldlM look fs

/-- The lines of a system file that begin with a word. -/
def systemLines (path word : String) : IO (List String) := do
  return ((← IO.FS.readFile path).splitOn "\n").filter (·.startsWith word)

/-- The time of day at which the system's count of nanoseconds began. -/
def epoch : IO Nat := do
  let lines ← systemLines "/proc/stat" "btime "
  return ((lines.head?.bind fun l => (l.splitOn " ")[1]?.bind String.toNat?).getD 0) * 1000000000

def clock (epoch : Nat) : IO Clock := do
  let nanos ← IO.monoNanosNow
  return ⟨fun _ => ⟨⟨((epoch + nanos) / 1000000000 : Nat), (epoch + nanos) % 1000000000⟩, nanos⟩, 0⟩

/-- Writes what the results have more than was written; how much there is now. -/
def flush (out : IO.FS.Handle) (s : Session) (written : Nat) : IO Nat := do
  let bytes := (s.files.read s.config.phoutFile).toOption.getD []
  out.write (.mk (bytes.drop written).toArray)
  out.flush
  return bytes.length

/-- Rounds until the executor is done. -/
partial def drive (epoch : Nat) (out : IO.FS.Handle) (s : Session) (written : Nat) : IO Session :=
  do
  let s := s.withClock (← clock epoch)
  let written ← flush out s written
  if s.executor.isDone then
    let s := s.windUp
    let _ ← flush out s written
    return s
  drive epoch out s.round written

/-- A run whose results go to the file as they come. -/
def fire (epoch : Nat) (s : Session) : IO Session := do
  let out ← IO.FS.Handle.mk s.config.phoutFile .write
  drive epoch out s.setUp 0

def conclude (exit : Exit) : IO UInt32 := do
  IO.print exit.output
  for notice in exit.notices do
    IO.eprintln notice
  return UInt32.ofNat exit.code

end Volley.Main

open Volley in
/-- Fires a run. -/
def main (arguments : List String) : IO UInt32 := do
  let environment := Environment.ofBlock (← IO.FS.readBinFile "/proc/self/environ").toList
  let cpus := (← Main.systemLines "/proc/cpuinfo" "processor").length
  let build := About.name ++ " " ++ About.version
  let launch : Launch := ⟨arguments, environment, cpus, ← (← IO.getStdout).isTty, build⟩
  let files ← Main.gather launch
  match launch.prepare files with
  | .error exit => Main.conclude exit
  | .ok ready =>
    let epoch ← Main.epoch
    let world : World :=
      ⟨.create 1, ← Main.clock epoch, .silent, Sql.Memory.fresh, .ofSeed (← IO.rand 0 (0xFFFFFFFF))⟩
    match Session.start ready.config files world false with
    | (.error a, files) =>
      if files.isFile ready.config.phoutFile then
        IO.FS.writeFile ready.config.phoutFile ""
      Main.conclude (ready.conclude (.error a))
    | (.ok session, _) =>
      let session ← Main.fire epoch session
      Main.conclude (ready.conclude session.report)
