import Volley.Fault
import Volley.FileSystem
import Volley.SharedFile.Lock

/-!
# Shared files

One open handle on a file that grows, and any number of cursors that read through it. A read first
looks at the stop signal, then takes the lock, then moves the handle to a position of its own and
requests bytes from there on; where the handle stands between two reads is of no use to anyone.
What is at the end of the file is told apart by the signal as it was before the read: nothing new
yet, or nothing more ever.
-/

namespace Volley

/-- What to read at a position.
mirrors multireader:74-79 (`ReadMode`) -/
inductive ReadMode where
  /-- At most so many bytes. -/
  | bytes (count : Nat)
  /-- Through the next line feed, or to the end. -/
  | line
  deriving DecidableEq, Repr

/-- What a read gives.
mirrors multireader:83-89 (`Chunk`) -/
inductive Chunk where
  | data (bytes : List UInt8)
  /-- Nothing new yet. -/
  | empty
  /-- Nothing new, and the producer has stopped. -/
  | finished
  deriving DecidableEq, Repr

namespace Chunk

def bytes? : Chunk → Option (List UInt8)
  | data bs => some bs
  | _ => none

def isFinished : Chunk → Bool
  | finished => true
  | _ => false

end Chunk

/-- An open handle that cursors share.
mirrors multireader:115-119 (`FileMultiReader`) -/
structure SharedFile where
  path : String
  /-- The file's bytes as of now, none for a directory. -/
  content : Option (List UInt8)
  /-- Where the handle stands; every read moves it. -/
  offset : Nat
  isOpen : Bool
  stopped : Bool
  /-- Another task holds the lock. -/
  isHeld : Bool
  /-- How many attempts at the lock failed. -/
  contention : Nat
  cacheSize : Nat
  policy : LockPolicy
  chance : Chance

namespace SharedFile

def defaultCacheSize : Nat := 52428800

/-- Opens a path.
mirrors multireader:123-140 (`FileMultiReader::open`) -/
def ofPath (fs : FileSystem) (path : String) (chance : Chance) : Except Fault SharedFile :=
  let handle (content : Option (List UInt8)) : SharedFile :=
    ⟨path, content, 0, true, false, false, 0, defaultCacheSize, .standard, chance⟩
  match fs.lookup path with
  | .ok (.file bytes) => .ok (handle (some bytes))
  | .ok .directory => .ok (handle none)
  | .error e => .error (.file ("Failed to open " ++ path ++ ": " ++ e.message))

/-- The chunk size of new cursors, at least one byte. -/
def withCacheSize (f : SharedFile) (n : Nat) : SharedFile := { f with cacheSize := max n 1 }

def withPolicy (f : SharedFile) (policy : LockPolicy) : SharedFile := { f with policy }

/-! ## The producer -/

/-- The producer appends bytes. -/
def append (f : SharedFile) (more : List UInt8) : SharedFile :=
  { f with content := f.content.map (· ++ more) }

/-- The producer cuts the file, or fills it up with zeros. -/
def truncate (f : SharedFile) (size : Nat) : SharedFile :=
  { f with content := f.content.map fun bs => bs.take size ++ List.replicate (size - bs.length) 0 }

/-- The producer raises the stop signal, which is never lowered. -/
def stop (f : SharedFile) : SharedFile := { f with stopped := true }

/-! ## Reads -/

/-- Takes the lock, or gives up on it.
mirrors multireader:180-209 (`FileMultiReader::wait_lock`) -/
def acquire (f : SharedFile) : Except Fault Unit × SharedFile :=
  if f.isHeld then
    let (n, chance) := f.policy.attempts f.chance
    (.error (.lock ("Could not lock " ++ f.path ++ " within " ++ f.policy.budget.render ++ " (" ++
      toString n ++ " attempts)")), { f with contention := f.contention + n, chance })
  else (.ok (), f)

/-- The bytes through the next line feed. -/
def throughLine : List UInt8 → List UInt8
  | [] => []
  | b :: r => if b = 10 then [b] else b :: throughLine r

/-- The bytes of the file; a directory has none. -/
def bytes (f : SharedFile) : List UInt8 := f.content.getD []

def seek (f : SharedFile) (position : Nat) : SharedFile := { f with offset := position }

/-- One request to the system: at most so many bytes from where the handle stands, which moves past
them. -/
def request (f : SharedFile) (count : Nat) : List UInt8 × SharedFile :=
  let found := (f.bytes.drop f.offset).take count
  (found, { f with offset := f.offset + found.length })

/-- A request that finds something leaves less to find. -/
theorem request_progress {f : SharedFile} {count : Nat} (h : (f.request count).1 ≠ []) :
    f.bytes.length - (f.request count).2.offset < f.bytes.length - f.offset := by
  have hpos := List.length_pos_iff.mpr h
  simp only [request, List.length_take, List.length_drop] at hpos ⊢
  omega

/-- How many bytes a line is requested by. -/
def lineBlock : Nat := 8192

/-- Requests blocks until one holds a line feed or the file ends. What the last block holds behind
the line feed is given up, though the handle has moved past it. -/
def requestLine (f : SharedFile) : List UInt8 × SharedFile :=
  let block := f.request lineBlock
  if block.1 = [] ∨ 10 ∈ block.1 then (throughLine block.1, block.2)
  else
    let more := block.2.requestLine
    (block.1 ++ more.1, more.2)
termination_by f.bytes.length - f.offset
decreasing_by
  rename_i h
  exact request_progress fun e => h (.inl e)

/-- The bytes that a read takes from where the handle stands. -/
def fetch (f : SharedFile) : ReadMode → List UInt8 × SharedFile
  | .bytes count => f.request count
  | .line => f.requestLine

/-- How many bytes the first request to the system asks for. -/
def firstRequest : ReadMode → Nat
  | .bytes count => min count 32
  | .line => lineBlock

/-- The first position that a file cannot have. -/
def positionLimit : Nat := 0x8000000000000000

/-- Why the system refuses to read at a position. -/
def refusal? (f : SharedFile) (position : Nat) (mode : ReadMode) : Option FileFault :=
  let count := firstRequest mode
  if positionLimit ≤ position then some .invalidArgument
  else if count = 0 then none
  else if positionLimit ≤ position + count then some .invalidArgument
  else if f.content.isNone then some .isDirectory
  else none

/-- Why a read at a position fails. -/
def fault? (f : SharedFile) (position : Nat) (mode : ReadMode) : Option Fault :=
  if !f.isOpen then some (.file (f.path ++ " has been closed"))
  else (f.refusal? position mode).map fun e => .file e.message

/-- The chunk of the bytes that were found; `stopped` is the signal as it was before the read. -/
def chunkOf (stopped : Bool) (bytes : List UInt8) : Chunk :=
  if bytes ≠ [] then .data bytes else if stopped then .finished else .empty

/-- A read under the lock, by one who found the stop signal at `stopped`: the chunk and the position
after it, and the handle where the read left it. -/
def readMoving (f : SharedFile) (stopped : Bool) (position : Nat) (mode : ReadMode) :
    Except Fault (Chunk × Nat) × SharedFile :=
  match f.fault? position mode with
  | some e => (.error e, f)
  | none =>
    let (found, f) := (f.seek position).fetch mode
    (.ok (chunkOf stopped found, position + found.length), f)

/-- What a read under the lock gives. -/
def readLocked (f : SharedFile) (stopped : Bool) (position : Nat) (mode : ReadMode) :
    Except Fault (Chunk × Nat) :=
  (f.readMoving stopped position mode).1

/-- The second step of a read: takes the lock and reads, after a look at the stop signal that found
`stopped`. -/
def readAfter (f : SharedFile) (stopped : Bool) (position : Nat) (mode : ReadMode) :
    Except Fault (Chunk × Nat) × SharedFile :=
  match f.acquire with
  | (.error e, f) => (.error e, f)
  | (.ok _, f) => f.readMoving stopped position mode

/-- Reads at a position.
mirrors multireader:212-242 (`FileMultiReader::read_at`) -/
def readAt (f : SharedFile) (position : Nat) (mode : ReadMode) :
    Except Fault (Chunk × Nat) × SharedFile :=
  f.readAfter f.stopped position mode

/-- Closes the handle; a second time nothing happens.
mirrors multireader:245-251 (`FileMultiReader::close`) -/
def close (f : SharedFile) : Except Fault Unit × SharedFile :=
  match f.acquire with
  | (.error e, f) => (.error e, f)
  | (.ok _, f) => (.ok (), { f with isOpen := false })

end SharedFile

end Volley
