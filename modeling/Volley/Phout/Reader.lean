import Volley.Phout.Line
import Volley.SharedFile.Cursor
import Volley.Text.Utf8

/-!
# Reading phout files as they grow

A reader takes chunks from a cursor and hands out the measurements of the lines that are complete.
What follows the last line feed waits for the next chunk, or for the end.
-/

namespace Volley.Phout

/-- mirrors phout:82-87 (`PhoutReader`) -/
structure Reader where
  cursor : Cursor
  /-- The bytes after the last line feed. -/
  pending : List UInt8
  finished : Bool
  /-- How many lines held no measurement. -/
  malformed : Nat
  deriving DecidableEq, Repr

namespace Reader

def start (cursor : Cursor) : Reader := ⟨cursor, [], false, 0⟩

/-- Hands out the measurements of a number of lines. -/
def handOut (r : Reader) (bytes : List UInt8) : List Measurement × Reader :=
  let (ms, bad) := parseAll (Text.Utf8.decodeLossy bytes)
  (ms, { r with malformed := r.malformed + bad })

/-- Takes bytes in. -/
def feed (r : Reader) (bytes : List UInt8) : List Measurement × Reader :=
  let all := r.pending ++ bytes
  match Text.cutLast? 10 all with
  | none => ([], { r with pending := all })
  | some (whole, rest) => { r with pending := rest }.handOut (whole ++ [10])

/-- Takes in that nothing follows any more. -/
def conclude (r : Reader) : Option (List Measurement) × Reader :=
  let ended := { r with finished := true, pending := [] }
  if r.pending = [] then (none, ended)
  else
    let (ms, ended) := ended.handOut r.pending
    (some ms, ended)

/-- Takes in what a read gave. -/
def take (r : Reader) : Chunk → Option (List Measurement) × Reader
  | .data bytes =>
    let (ms, r) := r.feed bytes
    (some ms, r)
  | .empty => (some [], r)
  | .finished => r.conclude

/-- The measurements of the next chunk; none at the end.
mirrors phout:108-133 (`PhoutReader::next_chunk`) -/
def next (r : Reader) (f : SharedFile) :
    Except Fault (Option (List Measurement)) × Reader × SharedFile :=
  if r.finished then (.ok none, r, f)
  else
    match r.cursor.read f none with
    | (.error e, _, f) => (.error e, r, f)
    | (.ok chunk, cursor, f) =>
      let (ms, r) := { r with cursor }.take chunk
      (.ok ms, r, f)

end Reader

end Volley.Phout
