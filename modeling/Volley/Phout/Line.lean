import Volley.Measurement
import Volley.Fault
import Volley.Ammo.Missile
import Volley.Text.Blank
import Volley.Text.Split
import Volley.Numeral.Integer

/-!
# Phout lines

One measurement a line, twelve columns between tabs: the time in seconds with three decimals, the
tag, eight counters and two codes. Writing turns the tabs and line ends of a tag into blanks.
Reading takes numbers with blanks around them and decimals of any count, of which three count.
-/

namespace Volley.Phout

open Numeral

/-- A character that would break the layout becomes a blank. -/
def plainChar (c : Char) : Char := if c == '\t' || c == '\n' || c == '\r' then ' ' else c

/-- A tag as it is written.
mirrors phout:76-78 (`normalize_tag`) -/
def plainTag (tag : List Char) : List Char := tag.map plainChar

/-- mirrors models/measurement:205-230 (`Measurement::fmt`) -/
def renderTime (t : Timestamp) : List Char :=
  signedDecimal t.secs ++ '.' :: zeroPadded 3 t.millis

/-- The columns of a line. -/
def columns (m : Measurement) : List (List Char) :=
  [renderTime m.sentAt, plainTag m.tag.toList, decimal m.intervalReal.toNat,
    decimal m.connectTime.toNat, decimal m.sendTime.toNat, decimal m.latency.toNat,
    decimal m.receiveTime.toNat, decimal m.intervalEvent.toNat, decimal m.sizeOut.toNat,
    decimal m.sizeIn.toNat, signedDecimal m.netCode.toInt, signedDecimal m.protoCode.toInt]

/-- Joins columns with tabs. -/
def joinTabs : List (List Char) → List Char
  | [] => []
  | [c] => c
  | c :: r => c ++ '\t' :: joinTabs r

/-- The columns without a line end. -/
def display (m : Measurement) : List Char := joinTabs (columns m)

/-- The line of a measurement.
mirrors models/measurement:160-162 (`Measurement::to_phout_line`) -/
def render (m : Measurement) : List Char := display m ++ ['\n']

/-- Milliseconds of a decimal fraction: its first three digits, zeros in place of missing ones. -/
def fractionMillis (ds : List Char) : Nat :=
  ((ds ++ ['0', '0', '0']).take 3).foldl (fun n c => n * 10 + (c.toNat - '0'.toNat)) 0

/-- Reads seconds with decimals.
mirrors models/measurement:233-254 (`parse_timestamp`) -/
def parseTime (raw : List Char) : Except Fault Timestamp :=
  let text := Text.trim raw
  let (whole, part) := match Text.cut? '.' text with
    | some (whole, part) => (whole, part)
    | none => (text, [])
  match parseInt maxI64 whole with
  | .error e => .error (.parse ("Invalid send_ts '" ++ .ofList text ++ "': " ++ e.message))
  | .ok secs =>
    if !part.all Char.isDigit then .error (.parse ("Invalid send_ts '" ++ .ofList text ++ "'"))
    else match Timestamp.at? secs (fractionMillis part * 1000000) with
      | some t => .ok t
      | none => .error (.parse ("send_ts out of range: " ++ .ofList text))

def invalidColumn {α : Type} (name : String) (text : List Char) (e : IntegerFault) :
    Except Fault α :=
  .error (.parse ("Invalid " ++ name ++ " '" ++ .ofList text ++ "': " ++ e.message))

def parseCounter (name : String) (text : List Char) : Except Fault UInt64 :=
  match parseNat maxU64 (Text.trim text) with
  | .ok n => .ok (UInt64.ofNat n)
  | .error e => invalidColumn name text e

def parseCode (name : String) (text : List Char) : Except Fault Int32 :=
  match parseInt maxI32 (Text.trim text) with
  | .ok n => .ok (Int32.ofInt n)
  | .error e => invalidColumn name text e

/-- Reads a line, with or without its end.
mirrors models/measurement:165-201 (`Measurement::from_phout_line`) -/
def parse (line : List Char) : Except Fault Measurement :=
  let body := Text.trimEndWhile (fun c => c == '\r' || c == '\n') line
  match Text.fields '\t' body with
  | [time, tag, c2, c3, c4, c5, c6, c7, c8, c9, c10, c11] => do
    let sentAt ← parseTime time
    let intervalReal ← parseCounter "interval_real" c2
    let connectTime ← parseCounter "connect_time" c3
    let sendTime ← parseCounter "send_time" c4
    let latency ← parseCounter "latency" c5
    let receiveTime ← parseCounter "receive_time" c6
    let intervalEvent ← parseCounter "interval_event" c7
    let sizeOut ← parseCounter "size_out" c8
    let sizeIn ← parseCounter "size_in" c9
    let netCode ← parseCode "net_code" c10
    let protoCode ← parseCode "proto_code" c11
    return { sentAt, tag := .ofList tag, intervalReal, connectTime, sendTime, latency, receiveTime,
             intervalEvent, sizeOut, sizeIn, netCode, protoCode }
  | fs => .error (.parse ("Expected 12 phout columns, got " ++ toString fs.length))

/-- The measurement under the base name of its tag. -/
def normalized (m : Measurement) : Measurement := { m with tag := Missile.baseName m.tag }

/-- The measurements of a text, and how many of its lines hold none though they are not blank.
mirrors phout:135-153 (`PhoutReader::parse`) -/
def parseAll (text : List Char) : List Measurement × Nat :=
  let results := ((Text.lines text).filter fun l => !Text.isBlankText l).map parse
  (results.filterMap fun r => r.toOption.map normalized,
    (results.filter fun r => !r.toOption.isSome).length)

end Volley.Phout
