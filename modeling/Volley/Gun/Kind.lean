import Volley.Fault
import Volley.Text.Blank
import Volley.Text.Case
import Volley.Text.Split

/-!
# Kinds of guns

The six kinds, their names, and the reader of a name: blanks around it, letter case and one ending
`_gun` do not matter.
-/

namespace Volley

/-- mirrors types:27-40 (`GunKind`) -/
inductive GunKind where
  | log
  | http
  | sql
  | custom
  | scenario
  | ultimate
  deriving DecidableEq, Repr

namespace GunKind

def all : List GunKind := [log, http, sql, custom, scenario, ultimate]

def name : GunKind → String
  | log => "log"
  | http => "http"
  | sql => "sql"
  | custom => "custom"
  | scenario => "scenario"
  | ultimate => "ultimate"

/-- The name of the configuration section. -/
def sectionName (k : GunKind) : String := k.name ++ "_gun"

/-- Whether setting the gun up loads a script. -/
def isDynamic : GunKind → Bool
  | custom | scenario | ultimate => true
  | _ => false

def ofName? (name : String) : Option GunKind := all.find? (·.name == name)

/-- mirrors types:92-100 (`GunKind::from_str`) -/
def parse (text : String) : Except Fault GunKind :=
  let normal := Text.lower (Text.trim text.toList)
  let base := (Text.dropSuffix? "_gun".toList normal).getD normal
  match ofName? (.ofList base) with
  | some k => .ok k
  | none => .error (.config ("Unknown gun type: " ++ text))

end GunKind

end Volley
