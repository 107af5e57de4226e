import Volley.Ammo.Missile
import Volley.FileSystem

/-!
# Ammunition readers

A reader goes through a list of missiles a number of times, or without end. The step to the next
pass is taken by the call that follows the last missile of a pass.
-/

namespace Volley

/-- A place in a list of missiles that is gone through `loops` times, or for ever.
mirrors ammo:63-68 (`AmmoReader`) -/
structure AmmoReader where
  missiles : List Missile
  loops : Option Nat
  pass : Nat
  index : Nat
  missiles_ne : missiles ≠ []

namespace AmmoReader

/-- mirrors ammo:88-98 (`AmmoReader::from_missiles`) -/
def ofMissiles (missiles : List Missile) (loops : Option Nat) : Except Fault AmmoReader :=
  if h : missiles ≠ [] then .ok ⟨missiles, loops, 0, 0, h⟩
  else .error (.validation "Ammo contains no missiles")

/-- mirrors ammo:83-86 (`AmmoReader::from_text`) -/
def ofText (text : List Char) (format : AmmoFormat) (loops : Option Nat) :
    Except Fault AmmoReader :=
  ofMissiles (format.missiles text) loops

/-- The reader of a file.
mirrors ammo:72-80 (`AmmoReader::open`) -/
def load (fs : FileSystem) (path : String) (format : AmmoFormat) (loops : Option Nat) :
    Except Fault AmmoReader :=
  match fs.readText path with
  | .error e => .error (.file ("Failed to read ammo file " ++ path ++ ": " ++ e.message))
  | .ok text => (ofText text format loops).mapError fun e => .validation (path ++ ": " ++ e.display)

def length (r : AmmoReader) : Nat := r.missiles.length

/-- How many missiles the reader yields, if it ends.
mirrors ammo:110-112 (`AmmoReader::total`) -/
def total (r : AmmoReader) : Option Nat := r.loops.map (· * r.length)

/-- The reader at the start of the next pass, if the last one is through. -/
def wrapped (r : AmmoReader) : AmmoReader :=
  if r.index = r.length then { r with index := 0, pass := r.pass + 1 } else r

/-- Whether all passes are through. -/
def isSpent (r : AmmoReader) : Bool :=
  match r.loops with
  | some n => decide (n ≤ r.pass)
  | none => false

/-- The next missile, and the reader after it.
mirrors ammo:118-129 (`AmmoReader::next`) -/
def next (r : AmmoReader) : Option Missile × AmmoReader :=
  let w := r.wrapped
  if w.isSpent then (none, w) else (w.missiles[w.index]?, { w with index := w.index + 1 })

/-- The next `n` missiles, or as many as there are. -/
def take (r : AmmoReader) : Nat → List Missile × AmmoReader
  | 0 => ([], r)
  | n + 1 =>
    match r.next with
    | (none, r) => ([], r)
    | (some m, r) =>
      let (ms, r) := r.take n
      (m :: ms, r)

end AmmoReader

end Volley
