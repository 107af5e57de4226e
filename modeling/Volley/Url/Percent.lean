import Volley.Text.Utf8
import Volley.Text.Hex

/-!
# Percent encoding

A byte is written as a percent sign and two hexadecimal digits. Each part of an address has its own
set of characters that are written so; controls and everything outside ASCII always are.
-/

namespace Volley.Url

/-- The characters of a part that are percent-encoded, beside controls and non-ASCII ones. -/
structure EscapeSet where
  chars : List Char

namespace EscapeSet

def controls : EscapeSet := ⟨[]⟩

def fragment : EscapeSet := ⟨[' ', '"', '<', '>', '\x60']⟩

def path : EscapeSet := ⟨fragment.chars ++ ['#', '?', '\x7b', '\x7d']⟩

def userinfo : EscapeSet :=
  ⟨path.chars ++ ['/', ':', ';', '=', '@', '[', '\\', ']', '^', '|']⟩

def query : EscapeSet := ⟨[' ', '"', '#', '<', '>']⟩

def specialQuery : EscapeSet := ⟨query.chars ++ ['\x27']⟩

def holds (s : EscapeSet) (c : Char) : Bool :=
  c.toNat < 0x20 || 0x7E < c.toNat || s.chars.contains c

end EscapeSet

def escapeByte (b : UInt8) : List Char := '%' :: (Text.Hex.ofByte b).map Char.toUpper

/-- A character in a part of an address. -/
def escapeChar (s : EscapeSet) (c : Char) : List Char :=
  if s.holds c then (Text.Utf8.encode [c]).flatMap escapeByte else [c]

def escape (s : EscapeSet) (text : List Char) : List Char := text.flatMap (escapeChar s)

/-- The bytes of a text in which escapes stand for theirs; a lone percent sign stands for itself. -/
def unescape : List Char → List UInt8
  | '%' :: a :: b :: r =>
    match Text.Hex.byte? a b with
    | some byte => byte :: unescape r
    | none => Text.Utf8.encode ['%'] ++ unescape (a :: b :: r)
  | c :: r => Text.Utf8.encode [c] ++ unescape r
  | [] => []

end Volley.Url
