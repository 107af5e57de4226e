import Volley.Json.Basic
import Volley.Numeral.Whole
import Volley.Time.Basic

/-!
# Measurements

The record of one shot: when it was sent, its tag, times in microseconds, sizes in bytes, and two
outcome codes. While a shot is open its record has no duration yet; closing it puts in the elapsed
time, unless one was assigned.

A record that was marked as failed is no success (`not_isSuccess_markFailed`).
-/

namespace Volley

/-- The figures of a record that are known before its duration. -/
structure Figures where
  connectTime : UInt64
  sendTime : UInt64
  latency : UInt64
  receiveTime : UInt64
  intervalEvent : UInt64
  sizeOut : UInt64
  sizeIn : UInt64
  netCode : Int32
  protoCode : Int32
  deriving DecidableEq, Repr, Inhabited

namespace Code

/-- The transport worked. -/
def netOk : Int32 := 0

def netTransport : Int32 := 1

def netTimedOut : Int32 := 110

/-- The answer was good. -/
def protoOk : Int32 := 200

def protoWarning : Int32 := 400

def protoError : Int32 := 500

end Code

namespace Figures

/-- No time, no bytes, success. -/
def initial : Figures := ⟨0, 0, 0, 0, 0, 0, 0, Code.netOk, Code.protoOk⟩

/-- mirrors models/measurement:155-157 (`Measurement::is_success`) -/
def isSuccess (f : Figures) : Bool := f.netCode == Code.netOk && f.protoCode == Code.protoOk

/-- Puts the failure codes in place of success codes.
mirrors models/measurement:60-67 (`ShotRecord::mark_failed`) -/
def markFailed (f : Figures) : Figures :=
  { f with
    protoCode := if f.protoCode = Code.protoOk then Code.protoError else f.protoCode
    netCode := if f.netCode = Code.netOk then Code.netTransport else f.netCode }

theorem not_isSuccess_markFailed (f : Figures) : f.markFailed.isSuccess = false := by
  simp only [markFailed, isSuccess]
  split <;> simp_all [Code.netOk, Code.netTransport]

end Figures

/-- The record of a finished shot.
mirrors models/measurement:138-151 (`Measurement`) -/
structure Measurement extends Figures where
  sentAt : Timestamp
  tag : String
  intervalReal : UInt64
  deriving DecidableEq, Repr, Inhabited

/-- The record of an open shot.
mirrors models/measurement:18-38 (`ShotRecord`) -/
structure ShotRecord extends Figures where
  sentAt : Timestamp
  tag : String
  intervalReal : Option UInt64
  deriving DecidableEq, Repr, Inhabited

namespace ShotRecord

/-- The record at the start of a shot.
mirrors models/measurement:42-57 (`ShotRecord::new`) -/
def start (tag : String) (sentAt : Timestamp) : ShotRecord :=
  { Figures.initial with sentAt, tag, intervalReal := none }

def markFailed (r : ShotRecord) : ShotRecord := { r with toFigures := r.toFigures.markFailed }

/-- The finished record, with the elapsed time where no duration was assigned.
mirrors models/measurement:101-120 (`ShotRecord::finish`) -/
def finish (r : ShotRecord) (elapsed : Span) : Measurement :=
  { r.toFigures with
    sentAt := r.sentAt
    tag := r.tag
    intervalReal := r.intervalReal.getD (UInt64.ofNat elapsed.toMicros) }

end ShotRecord

/-- The figures that a script may assign. -/
inductive Figure where
  | intervalReal
  | connectTime
  | sendTime
  | latency
  | receiveTime
  | intervalEvent
  | sizeOut
  | sizeIn
  | netCode
  | protoCode
  deriving DecidableEq, Repr

namespace Figure

def all : List Figure :=
  [intervalReal, connectTime, sendTime, latency, receiveTime, intervalEvent, sizeOut, sizeIn,
    netCode, protoCode]

def name : Figure → String
  | intervalReal => "interval_real"
  | connectTime => "connect_time"
  | sendTime => "send_time"
  | latency => "latency"
  | receiveTime => "receive_time"
  | intervalEvent => "interval_event"
  | sizeOut => "size_out"
  | sizeIn => "size_in"
  | netCode => "net_code"
  | protoCode => "proto_code"

/-- A counter: a natural number, or a real that is not negative, rounded and cut to 64 bits.
mirrors models/measurement:123-127 (`as_counter`) -/
def counter? : Json → Option UInt64
  | .number (.integer i) => if 0 ≤ i then some (UInt64.ofNat i.toNat) else none
  | .number (.real x) =>
    if Numeral.isNonnegative x then
      some (UInt64.ofNat (Numeral.integerIn 0 Numeral.maxU64 Numeral.Binary.nearest x).toNat)
    else none
  | _ => none

/-- An integer of 32 bits. -/
def code32? (i : Int) : Option Int32 :=
  if -0x80000000 ≤ i ∧ i < 0x80000000 then some (Int32.ofInt i) else none

/-- A code: an integer of 32 bits, or a real that rounds to one.
mirrors models/measurement:129-134 (`as_code`) -/
def code? : Json → Option Int32
  | .number (.integer i) => code32? i
  | .number (.real x) =>
    code32? (Numeral.integerIn (-Numeral.maxI64 - 1) Numeral.maxI64 Numeral.Binary.nearest x)
  | _ => none

/-- The record with the figure assigned, where the value is one for it. -/
def assign? (f : Figure) (v : Json) (r : ShotRecord) : Option ShotRecord :=
  match f with
  | intervalReal => (counter? v).map fun n => { r with intervalReal := some n }
  | connectTime => (counter? v).map fun n => { r with connectTime := n }
  | sendTime => (counter? v).map fun n => { r with sendTime := n }
  | latency => (counter? v).map fun n => { r with latency := n }
  | receiveTime => (counter? v).map fun n => { r with receiveTime := n }
  | intervalEvent => (counter? v).map fun n => { r with intervalEvent := n }
  | sizeOut => (counter? v).map fun n => { r with sizeOut := n }
  | sizeIn => (counter? v).map fun n => { r with sizeIn := n }
  | netCode => (code? v).map fun n => { r with netCode := n }
  | protoCode => (code? v).map fun n => { r with protoCode := n }

end Figure

/-- Assigns each figure that the object has a fitting value for, and counts them.
mirrors models/measurement:73-98 (`ShotRecord::apply_overrides`) -/
def ShotRecord.override (r : ShotRecord) (v : Json) : ShotRecord × Nat :=
  Figure.all.foldl (fun (r, n) f =>
    match (v.get? f.name).bind fun j => f.assign? j r with
    | some r => (r, n + 1)
    | none => (r, n)) (r, 0)

end Volley
