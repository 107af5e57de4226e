import Volley.SharedFile.Basic

/-!
# Cursors

A cursor is a position in a shared file and the size of the chunks it reads by default. A read that
fails leaves it where it is.
-/

namespace Volley

/-- mirrors multireader:256-260 (`FileLike`) -/
structure Cursor where
  position : Nat
  cacheSize : Nat
  deriving DecidableEq, Repr

namespace Cursor

/-- A new cursor at the start of a file.
mirrors multireader:172-178 (`FileMultiReader::get_reader`) -/
def ofFile (f : SharedFile) (cacheSize : Option Nat) : Cursor :=
  ⟨0, max (cacheSize.getD f.cacheSize) 1⟩

/-- The second step of a read at the cursor, after a look at the stop signal that found `stopped`;
moves the cursor. -/
def readAfter (c : Cursor) (f : SharedFile) (stopped : Bool) (mode : ReadMode) :
    Except Fault Chunk × Cursor × SharedFile :=
  match f.readAfter stopped c.position mode with
  | (.ok (chunk, next), f) => (.ok chunk, { c with position := next }, f)
  | (.error e, f) => (.error e, c, f)

/-- Reads at the cursor and moves it. -/
def readAs (c : Cursor) (f : SharedFile) (mode : ReadMode) :
    Except Fault Chunk × Cursor × SharedFile :=
  c.readAfter f f.stopped mode

/-- Reads at most so many bytes, by default as many as the cursor's cache holds.
mirrors multireader:264-269 (`FileLike::read`) -/
def read (c : Cursor) (f : SharedFile) (count : Option Nat) :
    Except Fault Chunk × Cursor × SharedFile :=
  c.readAs f (.bytes (count.getD c.cacheSize))

/-- Reads through the next line feed.
mirrors multireader:274-278 (`FileLike::readline`) -/
def readLine (c : Cursor) (f : SharedFile) : Except Fault Chunk × Cursor × SharedFile :=
  c.readAs f .line

end Cursor

end Volley
