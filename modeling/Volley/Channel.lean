import Volley.Measurement

/-!
# The result channel

A bounded queue between the shots, which offer records, and one consumer, which drains them. An
offer never waits: on a full queue the record is dropped and counted, and so it is when the
consumer is gone. The queue holds at least one record, whatever capacity is asked for.
-/

namespace Volley

/-- What became of the offers so far.
mirrors channel:24-33 (`ChannelSnapshot`) -/
structure Tally where
  offered : Nat
  accepted : Nat
  dropped : Nat
  closed : Nat
  deriving DecidableEq, Repr, Inhabited

namespace Tally

def zero : Tally := ⟨0, 0, 0, 0⟩

/-- The offers that were refused.
mirrors channel:37-39 (`ChannelSnapshot::lost`) -/
def lost (t : Tally) : Nat := t.dropped + t.closed

end Tally

/-- A queue of records, the oldest first. -/
structure Channel where
  capacity : Nat
  queue : List Measurement
  senders : Nat
  receiving : Bool
  tally : Tally
  deriving DecidableEq, Repr, Inhabited

namespace Channel

/-- An empty channel with one sender and its receiver.
mirrors channel:45-52 (`result_channel`) -/
def create (capacity : Nat) : Channel := ⟨max capacity 1, [], 1, true, .zero⟩

/-- The number of records that wait. -/
def length (c : Channel) : Nat := c.queue.length

/-- Offers a record; true if it was taken.
mirrors channel:63-87 (`ResultSender::offer`) -/
def offer (c : Channel) (m : Measurement) : Channel × Bool :=
  let t := { c.tally with offered := c.tally.offered + 1 }
  if !c.receiving then ({ c with tally := { t with closed := t.closed + 1 } }, false)
  else if c.queue.length < c.capacity then
    ({ c with queue := c.queue ++ [m], tally := { t with accepted := t.accepted + 1 } }, true)
  else ({ c with tally := { t with dropped := t.dropped + 1 } }, false)

/-- What a consumer gets. -/
inductive Drained where
  | record (m : Measurement)
  /-- Nothing waits and no sender is left. -/
  | ended
  /-- Nothing waits, but a sender is left. -/
  | pending
  deriving DecidableEq, Repr

/-- Takes the oldest record.
mirrors channel:149-151 (`ResultReceiver::drain`) -/
def drain (c : Channel) : Channel × Drained :=
  match c.queue with
  | m :: r => ({ c with queue := r }, .record m)
  | [] => (c, if c.senders = 0 then .ended else .pending)

/-- Takes the oldest record if one waits.
mirrors channel:154-156 (`ResultReceiver::try_drain`) -/
def tryDrain (c : Channel) : Channel × Option Measurement :=
  match c.drain with
  | (c, .record m) => (c, some m)
  | (c, _) => (c, none)

/-- Takes all records that wait. -/
def drainAll (c : Channel) : Channel × List Measurement := ({ c with queue := [] }, c.queue)

def cloneSender (c : Channel) : Channel := { c with senders := c.senders + 1 }

def dropSender (c : Channel) : Channel := { c with senders := c.senders - 1 }

/-- The consumer goes, and with it the records that wait. -/
def dropReceiver (c : Channel) : Channel := { c with receiving := false, queue := [] }

end Channel

end Volley
