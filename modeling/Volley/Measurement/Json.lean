import Volley.Measurement
import Volley.Json.Printer
import Volley.Json.Parser
import Volley.Time.Calendar

/-!
# Measurements as JSON

An object with one member per column, the time in its written form first. Reading asks for every
member, once, and skips members of other names.
-/

namespace Volley.Measurement

open Volley (Json)

/-- The members of the figures. -/
def figures (f : Figures) : List (String × Json) :=
  [("connect_time", .ofNat f.connectTime.toNat), ("send_time", .ofNat f.sendTime.toNat),
    ("latency", .ofNat f.latency.toNat), ("receive_time", .ofNat f.receiveTime.toNat),
    ("interval_event", .ofNat f.intervalEvent.toNat), ("size_out", .ofNat f.sizeOut.toNat),
    ("size_in", .ofNat f.sizeIn.toNat), ("net_code", .ofInt f.netCode.toInt),
    ("proto_code", .ofInt f.protoCode.toInt)]

def toJson (m : Measurement) : Json :=
  .object ([("send_ts", .string (Calendar.render m.sentAt)), ("tag", .string m.tag),
    ("interval_real", .ofNat m.intervalReal.toNat)] ++ figures m.toFigures)

/-- The names of the members. -/
def keys : List String := "send_ts" :: "tag" :: Figure.all.map Figure.name

/-- The single member with a key. -/
def unique? (key : String) (members : List (String × Json)) : Option Json :=
  match members.filter (·.1 == key) with
  | [(_, v)] => some v
  | _ => none

def word? (j : Json) : Option UInt64 := j.asNat?.map UInt64.ofNat

def int32? : Json → Option Int32
  | .number n => n.asInt?.bind Figure.code32?
  | _ => none

/-- The values of an object, or of a list in the order of the members. -/
def ofMembers? (get? : String → Option Json) : Option Measurement := do
  let sentAt ← (← (← get? "send_ts").asString?) |> Calendar.parse?
  let tag ← (← get? "tag").asString?
  let intervalReal ← word? (← get? "interval_real")
  let connectTime ← word? (← get? "connect_time")
  let sendTime ← word? (← get? "send_time")
  let latency ← word? (← get? "latency")
  let receiveTime ← word? (← get? "receive_time")
  let intervalEvent ← word? (← get? "interval_event")
  let sizeOut ← word? (← get? "size_out")
  let sizeIn ← word? (← get? "size_in")
  let netCode ← int32? (← get? "net_code")
  let protoCode ← int32? (← get? "proto_code")
  return { sentAt, tag, intervalReal, connectTime, sendTime, latency, receiveTime, intervalEvent,
           sizeOut, sizeIn, netCode, protoCode }

/-- Reads a measurement from an object, or from a list of the twelve values in order. -/
def ofJson? : Json → Option Measurement
  | .object members => ofMembers? (unique? · members)
  | .array values =>
    if values.length = keys.length then ofMembers? fun k => Json.lookup? k (keys.zip values)
    else none
  | _ => none

end Volley.Measurement
