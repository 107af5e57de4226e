import Volley.Json.Basic
import Volley.Numeral.Integer
import Volley.Numeral.Shortest
import Volley.Text.Hex

/-!
# Printing JSON

Compact text: no blanks, control characters and the two special ones escaped, doubles by their
shortest digits. A double that is not finite prints as null.
-/

namespace Volley.Json

open Numeral

/-- A character inside quotes. -/
def escapeChar (c : Char) : List Char :=
  match c with
  | '"' => ['\\', '"']
  | '\\' => ['\\', '\\']
  | '\n' => ['\\', 'n']
  | '\r' => ['\\', 'r']
  | '\t' => ['\\', 't']
  | c =>
    if c.toNat == 8 then ['\\', 'b']
    else if c.toNat == 12 then ['\\', 'f']
    else if c.toNat < 32 then
      ['\\', 'u', '0', '0'] ++ Text.Hex.ofByte (UInt8.ofNat c.toNat)
    else [c]

/-- A text in quotes. -/
def quote (s : String) : String :=
  .ofList ('"' :: (s.toList.flatMap escapeChar ++ ['"']))

def Number.render : Number → String
  | .integer i => .ofList (signedDecimal i)
  | .real x => Layout.json.render x

mutual

/-- The text with members as they stand. -/
def renderRaw : Json → String
  | .null => "null"
  | .bool b => if b then "true" else "false"
  | .number n => n.render
  | .string s => quote s
  | .array elements => "[" ++ ",".intercalate (renderList elements) ++ "]"
  | .object members => "\x7b" ++ ",".intercalate (renderMembers members) ++ "\x7d"

def renderList : List Json → List String
  | [] => []
  | j :: r => renderRaw j :: renderList r

def renderMembers : List (String × Json) → List String
  | [] => []
  | (k, j) :: r => (quote k ++ ":" ++ renderRaw j) :: renderMembers r

end

/-- The text with each object's keys in order. -/
def render (j : Json) : String := renderRaw (canonical j)

end Volley.Json
