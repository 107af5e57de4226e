import Volley.Fault
import Volley.Text.Blank
import Volley.Text.Case
import Volley.Text.Split

/-!
# Missiles and their written form

A missile is what to send and how to label it. Ammunition text holds one missile a line: the whole
line as payload, or a marker, a tab and the payload. Blank lines hold none.
-/

namespace Volley

/-- One unit of ammunition.
mirrors types:105-110 (`Missile`) -/
structure Missile where
  payload : String
  marker : String
  deriving DecidableEq, Repr, Inhabited

namespace Missile

/-- mirrors types:122-124 (`Missile::unmarked`) -/
def unmarked (payload : String) : Missile := ⟨payload, ""⟩

/-- A marker or a tag without what follows its last number sign.
mirrors phout:76-78 (`normalize_tag`) -/
def baseName (s : String) : String :=
  match Text.cutLast? '#' s.toList with
  | some (name, _) => .ofList name
  | none => s

/-- The scenario that a marker names.
mirrors gun:69-76 (`scenario_name`) -/
def scenarioName (marker : String) : String :=
  let name := baseName marker
  if name.isEmpty then "default" else name

end Missile

/-- How a line is read.
mirrors ammo:12-17 (`AmmoFormat`) -/
inductive AmmoFormat where
  | line
  | caseLine
  deriving DecidableEq, Repr

namespace AmmoFormat

def name : AmmoFormat → String
  | line => "line"
  | caseLine => "caseline"

/-- Reads the name of a format; blanks around it, letter case, hyphens and underscores do not
matter.
mirrors ammo:52-58 (`AmmoFormat::from_str`) -/
def parse (text : String) : Except Fault AmmoFormat :=
  let normal := (Text.lower (Text.trim text.toList)).filter fun c => c != '-' && c != '_'
  if normal = "line".toList then .ok line
  else if normal = "caseline".toList then .ok caseLine
  else .error (.config ("Unknown ammo format: " ++ text))

/-- The missile of a line, if the line is not blank.
mirrors ammo:28-40 (`AmmoFormat::parse_line`) -/
def missile? (f : AmmoFormat) (text : List Char) : Option Missile :=
  let body := Text.trimEndWhile (fun c => c == '\r' || c == '\n') text
  if Text.isBlankText body then none
  else match f with
    | line => some (.unmarked (.ofList body))
    | caseLine =>
      match Text.cut? '\t' body with
      | some (marker, payload) => some ⟨.ofList payload, .ofList marker⟩
      | none => some (.unmarked (.ofList body))

/-- The missiles of a text. -/
def missiles (f : AmmoFormat) (text : List Char) : List Missile :=
  (Text.lines text).filterMap f.missile?

end AmmoFormat

end Volley
