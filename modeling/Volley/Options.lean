import Volley.Fault
import Volley.Text.Blank
import Volley.Json.Parser
import Volley.Json.Printer

/-!
# Gun options

A table from keys to texts, sorted by key. A text is read into a typed value on demand.
-/

namespace Volley

/-- The options of a gun, sorted by key, each key once.
mirrors gun:80-82 (`GunOptions`) -/
@[ext]
structure Options where
  entries : List (String × String)
  ascending : Json.Ascending entries
  deriving DecidableEq, Repr

namespace Options

def empty : Options := ⟨[], .nil⟩

/-- Puts a value in, in place of an earlier one. -/
def insert (o : Options) (key value : String) : Options :=
  ⟨Json.insertSorted key value o.entries, Json.ascending_insertSorted o.ascending⟩

/-- The table of a list of pairs; later pairs replace earlier ones. -/
def ofList (pairs : List (String × String)) : Options :=
  pairs.foldl (fun o (k, v) => o.insert k v) empty

def get? (o : Options) (key : String) : Option String := Json.lookup? key o.entries

def contains (o : Options) (key : String) : Bool := (o.get? key).isSome

def getD (o : Options) (key fallback : String) : String := (o.get? key).getD fallback

/-- A value that has to be there.
mirrors gun:107-112 (`GunOptions::get`) -/
def require (o : Options) (key : String) : Except Fault String :=
  match o.get? key with
  | some v => .ok v
  | none => .error (.gunConfig ("Missing key: " ++ key))

/-- A value that has to be there, read as one of a type.
mirrors gun:120-129 (`GunOptions::get_parsed`) -/
def read {α : Type} (o : Options) (key : String) (reader : String → Except String α) :
    Except Fault α := do
  let raw ← o.require key
  match reader (Text.trimmed raw) with
  | .ok v => return v
  | .error e =>
    throw (.gunConfig ("Invalid value '" ++ raw ++ "' for key " ++ key ++ ": " ++ e))

/-- A value read as one of a type, or a default where the key is missing.
mirrors gun:132-142 (`GunOptions::get_parsed_or`) -/
def readD {α : Type} (o : Options) (key : String) (reader : String → Except String α)
    (fallback : α) : Except Fault α :=
  if o.contains key then o.read key reader else .ok fallback

/-- A number or a truth value where the text is the JSON of one, else the text. -/
def typed (raw : String) : Json :=
  match Json.parse raw with
  | .ok (.number n) => .number n
  | .ok (.bool b) => .bool b
  | _ => .string raw

/-- The options as a JSON object.
mirrors gun:145-158 (`GunOptions::as_json`) -/
def toJson (o : Options) : Json := .object (o.entries.map fun (k, v) => (k, typed v))

end Options

/-! Readers of typed texts. A refusal is told in words. -/

namespace Reading

def nat (max : Nat) (s : String) : Except String Nat :=
  match Numeral.parseNat max s.toList with
  | .ok n => .ok n
  | .error e => .error e.message

def int (max : Nat) (s : String) : Except String Int :=
  match Numeral.parseInt max s.toList with
  | .ok n => .ok n
  | .error e => .error e.message

def real (s : String) : Except String Float :=
  match Numeral.parseReal s.toList with
  | .ok x => .ok x
  | .error e => .error e.message

def bool (s : String) : Except String Bool :=
  if s = "true" then .ok true
  else if s = "false" then .ok false
  else .error Fault.notBoolean

end Reading

end Volley
