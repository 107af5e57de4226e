import Volley.Channel
import Volley.Clock

/-!
# Measured scopes

A shot is open from a reading of the clock on. When its scope ends its record is offered, once; a
scope that is discarded offers nothing.
-/

namespace Volley

/-- An open scope: its record so far, and when it began.
mirrors gun/measure:18-23 (`Shot`) -/
structure Shot where
  record : ShotRecord
  started : Clock.Reading
  deriving DecidableEq, Repr

namespace Shot

/-- How a scope ends. -/
inductive Ending where
  | completed
  /-- The scope was left by a panic. -/
  | panicked
  | discarded
  deriving DecidableEq, Repr

/-- mirrors gun/measure:26-33 (`Shot::open`) -/
def begin (marker : String) (now : Clock.Reading) : Shot := ⟨.start marker now.wall, now⟩

/-- Puts the failure codes in place of success codes.
mirrors gun/measure:43-47 (`Shot::fail`) -/
def fail (s : Shot) : Shot := { s with record := s.record.markFailed }

/-- Marks the shot as failed and hands the error back. -/
def failWith {ε : Type} (s : Shot) (error : ε) : Shot × ε := (s.fail, error)

/-- The record of a scope that ends now. -/
def finish (s : Shot) (now : Clock.Reading) : Measurement := s.record.finish (now.since s.started)

/-- Ends a scope.
mirrors gun/measure:70-84 (`Shot::drop`) -/
def close (s : Shot) (ending : Ending) (now : Clock.Reading) (c : Channel) : Channel :=
  match ending with
  | .completed => (c.offer (s.finish now)).1
  | .panicked => (c.offer (s.fail.finish now)).1
  | .discarded => c

/-- Runs a body on a record in a scope of its own, which is marked as failed if the body fails. The
body's result is handed back.
mirrors channel:98-108 (`ResultSender::measure_with`) -/
def around {ε α : Type} (marker : String) (start stop : Clock.Reading) (c : Channel)
    (body : ShotRecord → ShotRecord × Except ε α) : Channel × Except ε α :=
  let shot := begin marker start
  match body shot.record with
  | (r, .ok a) => ({ shot with record := r }.close .completed stop c, .ok a)
  | (r, .error e) =>
    let (shot, e) := { shot with record := r }.failWith e
    (shot.close .completed stop c, .error e)

end Shot

end Volley
