import Volley.App
import Volley.Numeral.Shortest

/-!
# Reports

The rows of a report, plain or in colors. Padding goes by characters and stands inside the color of
a label, so both forms line up.
-/

namespace Volley

/-- A span in seconds as a double. -/
def Span.toSeconds (s : Span) : Float :=
  Float.ofNat s.secs + Float.ofNat s.nanos / 1000000000.0

namespace Report

/-- How well a run went.
mirrors output/colored:13-20 (`RunHealth`) -/
inductive Health where
  | clean
  /-- Some records tell failures. -/
  | degraded
  /-- Records were lost or shots failed. -/
  | lossy
  deriving DecidableEq, Repr

namespace Health

def name : Health → String
  | clean => "clean"
  | degraded => "degraded"
  | lossy => "lossy"

def color : Health → Color
  | clean => .green
  | degraded => .yellow
  | lossy => .red

def of (r : RunReport) : Health :=
  if 0 < r.lost ∨ 0 < r.shots.failed then .lossy
  else if 0 < r.writer.failed then .degraded
  else .clean

end Health

/-- What a row tells. -/
inductive Label where
  | gun
  | duration
  | shots
  | rate
  | measured
  | skipped
  | errors
  | written
  | failedCodes
  | lost
  | phout
  | offered
  | droppedFull
  | droppedClosed
  deriving DecidableEq, Repr

namespace Label

def name : Label → String
  | gun => "Gun"
  | duration => "Duration"
  | shots => "Shots"
  | rate => "Rate"
  | measured => "Measured"
  | skipped => "Skipped"
  | errors => "Errors"
  | written => "Written"
  | failedCodes => "Failed codes"
  | lost => "Lost"
  | phout => "Phout"
  | offered => "Offered"
  | droppedFull => "Dropped (full)"
  | droppedClosed => "Dropped (closed)"

/-- The style of a value.
mirrors output/colored:61-69 (`ColoredFormatter::value_color`) -/
def style (l : Label) (value : String) : Style :=
  match l with
  | lost | errors | droppedFull | droppedClosed =>
    if value = "0" then .plain else .boldColor .red
  | failedCodes | skipped => if value = "0" then .plain else .ofColor .yellow
  | measured | written => .ofColor .green
  | _ => .plain

end Label

def showNat (n : Nat) : String := .ofList (Numeral.decimal n)

/-- Shots per second. -/
def rate (shots : Nat) (seconds : Float) : Float :=
  if seconds > 0.0 then Float.ofNat shots / seconds else 0.0

/-- The rows of a report.
mirrors output/formatter:37-62 (`report_rows`) -/
def rows (r : RunReport) (verbose : Bool) : List (Label × String) :=
  let seconds := r.elapsed.toSeconds
  [(.gun, r.gun.name), (.duration, Numeral.fixedPlaces 2 seconds ++ "s"),
    (.shots, showNat r.shots.shots),
    (.rate, Numeral.fixedPlaces 1 (rate r.shots.shots seconds) ++ "/s"),
    (.measured, showNat r.shots.measured), (.skipped, showNat r.shots.skipped),
    (.errors, showNat r.shots.failed), (.written, showNat r.writer.written),
    (.failedCodes, showNat r.writer.failed), (.lost, showNat r.lost), (.phout, r.phoutFile)] ++
  if verbose then
    [(.offered, showNat r.channel.offered), (.droppedFull, showNat r.channel.dropped),
      (.droppedClosed, showNat r.channel.closed)]
  else []

/-- How texts are put: in colors or plain, on a terminal that takes escapes or not. -/
structure Form where
  color : Bool
  escapes : Bool
  verbose : Bool
  deriving DecidableEq, Repr

namespace Form

/-- In colors, without details. -/
def standard : Form := ⟨true, true, false⟩

def paint (f : Form) (style : Style) (text : String) : String := style.paint f.escapes text

def ruleWidth : Nat := 40

/-- A line of one character. -/
def rule (c : Char) (width : Nat) : String := .ofList (List.replicate (max width ruleWidth) c)

/-- A title between two lines.
mirrors output/colored:73-76 (`ColoredFormatter::format_header`) -/
def header (f : Form) (title : String) : String :=
  if f.color then
    let line := f.paint (.ofColor .cyan) (rule '━' title.length)
    line ++ "\n" ++ f.paint .strong title ++ "\n" ++ line
  else
    let line := rule '=' title.utf8ByteSize
    line ++ "\n" ++ title ++ "\n" ++ line

/-- A mark or a word, and a text. -/
def message (f : Form) (mark word : String) (color : Color) (text : String) : String :=
  if f.color then f.paint (.boldColor color) mark ++ " " ++ f.paint (.ofColor color) text
  else word ++ ": " ++ text

def failure (f : Form) (text : String) : String := f.message "✗" "ERROR" .red text

def warning (f : Form) (text : String) : String := f.message "⚠" "WARNING" .yellow text

def success (f : Form) (text : String) : String := f.message "✓" "OK" .green text

/-- A row: a label padded to 18 characters, and a value. -/
def row (f : Form) (label value : String) (style : Style) : String :=
  let label := padRight 18 (label ++ ":")
  if f.color then "  " ++ f.paint .faint label ++ " " ++ f.paint style value ++ "\n"
  else "  " ++ label ++ " " ++ value ++ "\n"

def interruption : String := "Run was interrupted before the ammo ran out"

/-- The row on the health of the run, which only the colored form has. -/
def healthRow (f : Form) (r : RunReport) : String :=
  let health := Health.of r
  if f.color then f.row "Health" health.name (.boldColor health.color) else ""

/-- The report of a run.
mirrors output/colored:78-99 (`ColoredFormatter::format_run_report`) -/
def report (f : Form) (r : RunReport) : String :=
  f.header "Shooting Summary" ++ "\n" ++
    String.join ((rows r f.verbose).map fun (l, v) => f.row l.name v (l.style v)) ++
    f.healthRow r ++
    (if r.interrupted then
      "  " ++ (if f.color then f.paint (.ofColor .yellow) interruption else interruption) ++ "\n"
    else "")

end Form

end Report

end Volley
