import Volley.Channel
import Volley.Fault
import Volley.FileSystem
import Volley.Phout.Line
import Volley.Text.Utf8

/-!
# Writing phout files

The writer is the consumer of the result channel. It waits for a record, then takes all that are
there without waiting, then flushes, and so on until no sender is left. Bytes go through a buffer
that spills when it is full.
-/

namespace Volley.Phout

/-- What a writer wrote.
mirrors phout:14-19 (`WriterStats`) -/
structure WriterTally where
  written : Nat
  /-- The lines that tell no success. -/
  failed : Nat
  deriving DecidableEq, Repr, Inhabited

/-- Where a writer stands. -/
inductive Writer.Phase where
  /-- Waits for a record. -/
  | waiting
  /-- Takes what is there. -/
  | emptying
  | done
  deriving DecidableEq, Repr

/-- mirrors phout:23-26 (`PhoutWriter`) -/
structure Writer where
  path : String
  /-- Where the file stands. -/
  place : List String
  /-- The bytes that are not in the file yet. -/
  buffer : List UInt8
  tally : WriterTally
  phase : Writer.Phase
  deriving DecidableEq, Repr

namespace Writer

/-- How many bytes the buffer holds. -/
def bufferSize : Nat := 8192

/-- Makes an empty file and a writer for it.
mirrors phout:30-39 (`PhoutWriter::create`) -/
def create (fs : FileSystem) (path : String) : Except Fault (Writer × FileSystem) :=
  match fs.create path with
  | .ok (place, fs) => .ok (⟨path, place, [], ⟨0, 0⟩, .waiting⟩, fs)
  | .error e => .error (.file ("Failed to create " ++ path ++ ": " ++ e.message))

/-- Moves the buffer to the file. -/
def flush (w : Writer) (fs : FileSystem) : Writer × FileSystem :=
  if w.buffer = [] then (w, fs) else ({ w with buffer := [] }, fs.append w.place w.buffer)

/-- Puts bytes in the buffer, past it if they are more than it holds. -/
def put (w : Writer) (fs : FileSystem) (bytes : List UInt8) : Writer × FileSystem :=
  let (w, fs) := if bufferSize < w.buffer.length + bytes.length then w.flush fs else (w, fs)
  if bufferSize ≤ bytes.length then (w, fs.append w.place bytes)
  else ({ w with buffer := w.buffer ++ bytes }, fs)

/-- The bytes of a record's line. -/
def lineBytes (m : Measurement) : List UInt8 := Text.Utf8.encode (render m)

/-- Writes a record.
mirrors phout:45-52 (`PhoutWriter::write`) -/
def write (w : Writer) (fs : FileSystem) (m : Measurement) : Writer × FileSystem :=
  let (w, fs) := w.put fs (lineBytes m)
  let failed := if m.toFigures.isSuccess then w.tally.failed else w.tally.failed + 1
  ({ w with tally := ⟨w.tally.written + 1, failed⟩ }, fs)

/-- One step of the writer.
mirrors phout:58-72 (`PhoutWriter::run`) -/
def step (w : Writer) (c : Channel) (fs : FileSystem) : Writer × Channel × FileSystem :=
  match w.phase with
  | .done => (w, c, fs)
  | .waiting =>
    match c.drain with
    | (c, .record m) =>
      let (w, fs) := w.write fs m
      ({ w with phase := .emptying }, c, fs)
    | (c, .pending) => (w, c, fs)
    | (c, .ended) =>
      let (w, fs) := w.flush fs
      ({ w with phase := .done }, c, fs)
  | .emptying =>
    match c.tryDrain with
    | (c, some m) =>
      let (w, fs) := w.write fs m
      (w, c, fs)
    | (c, none) =>
      let (w, fs) := w.flush fs
      ({ w with phase := .waiting }, c, fs)

/-- So many steps. -/
def steps : Nat → Writer → Channel → FileSystem → Writer × Channel × FileSystem
  | 0, w, c, fs => (w, c, fs)
  | n + 1, w, c, fs =>
    let (w, c, fs) := w.step c fs
    steps n w c fs

/-- Steps until the writer waits or is done, while nobody else touches the channel. -/
def settle (w : Writer) (c : Channel) (fs : FileSystem) : Writer × Channel × FileSystem :=
  w.steps (c.length + 3) c fs

end Writer

end Volley.Phout
