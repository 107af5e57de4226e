import Volley.Json.Basic
import Volley.Numeral.Real
import Volley.Text.Utf8

/-!
# Reading JSON

A reader over bytes. A refusal names its cause and the byte where it arose, told as a line and a
column. Nesting is limited to 127 levels, and that limit is what the recursion runs on. A number
with a fraction or an exponent, or one beyond 64 bits, is the double of its leading 64 bits of
digits, scaled by a power of ten.
-/

namespace Volley.Json

open Numeral

/-- Why a text is no JSON. -/
inductive Cause where
  | endInList
  | endInObject
  | endInString
  | endInValue
  | expectedColon
  | expectedListEnd
  | expectedObjectEnd
  | expectedIdent
  | expectedValue
  | invalidEscape
  | invalidNumber
  | numberOutOfRange
  | controlCharacter
  | keyMustBeString
  | loneSurrogate
  | endOfHexEscape
  | trailingComma
  | trailingCharacters
  | tooDeep
  deriving DecidableEq, Repr

def Cause.message : Cause → String
  | .endInList => "EOF while parsing a list"
  | .endInObject => "EOF while parsing an object"
  | .endInString => "EOF while parsing a string"
  | .endInValue => "EOF while parsing a value"
  | .expectedColon => "expected \x60:\x60"
  | .expectedListEnd => "expected \x60,\x60 or \x60]\x60"
  | .expectedObjectEnd => "expected \x60,\x60 or \x60\x7d\x60"
  | .expectedIdent => "expected ident"
  | .expectedValue => "expected value"
  | .invalidEscape => "invalid escape"
  | .invalidNumber => "invalid number"
  | .numberOutOfRange => "number out of range"
  | .controlCharacter => "control character (\\u0000-\\u001F) found while parsing a string"
  | .keyMustBeString => "key must be a string"
  | .loneSurrogate => "lone leading surrogate in hex escape"
  | .endOfHexEscape => "unexpected end of hex escape"
  | .trailingComma => "trailing comma"
  | .trailingCharacters => "trailing characters"
  | .tooDeep => "recursion limit exceeded"

/-- A refusal: the cause, and how many bytes were left when it arose. -/
structure Refusal where
  cause : Cause
  left : Nat
  deriving DecidableEq, Repr

/-- A reader gives a value and the bytes after it. -/
abbrev Reader (α : Type) := List UInt8 → Except Refusal (α × List UInt8)

/-- A refusal at the bytes already taken. -/
def refuse {α : Type} (cause : Cause) (s : List UInt8) : Except Refusal α :=
  .error ⟨cause, s.length⟩

/-- A refusal at the byte just ahead. -/
def refuseAhead {α : Type} (cause : Cause) (s : List UInt8) : Except Refusal α :=
  .error ⟨cause, s.length - 1⟩

def isSpace (b : UInt8) : Bool := b == 0x20 || b == 0x0A || b == 0x0D || b == 0x09

def skipSpace (s : List UInt8) : List UInt8 := s.dropWhile isSpace

def isDigit (b : UInt8) : Bool := 0x30 ≤ b && b ≤ 0x39

def digitOf (b : UInt8) : Nat := b.toNat - 0x30

def hexValue? (b : UInt8) : Option Nat :=
  if isDigit b then some (digitOf b)
  else if 0x61 ≤ b && b ≤ 0x66 then some (b.toNat - 0x61 + 10)
  else if 0x41 ≤ b && b ≤ 0x46 then some (b.toNat - 0x41 + 10)
  else none

/-- The rest of a keyword. -/
def keyword (value : Json) : List UInt8 → Reader Json
  | [], s => .ok (value, s)
  | _ :: _, [] => refuse .endInValue []
  | k :: ks, b :: s => if k == b then keyword value ks s else refuse .expectedIdent s

/-- Four hexadecimal digits. -/
def fourHex : Reader Nat
  | a :: b :: c :: d :: s =>
    match hexValue? a, hexValue? b, hexValue? c, hexValue? d with
    | some a, some b, some c, some d => .ok (a * 4096 + b * 256 + c * 16 + d, s)
    | _, _, _, _ => refuse .invalidEscape s
  | _ => refuse .endInString []

/-- A character given by its code, after the escape's letter. -/
def unicodeEscape (s : List UInt8) : Except Refusal (Char × List UInt8) := do
  let (n, s) ← fourHex s
  if 0xDC00 ≤ n ∧ n ≤ 0xDFFF then refuse .loneSurrogate s
  else if n < 0xD800 ∨ 0xDBFF < n then return (Char.ofNat n, s)
  else match s with
    | [] => refuse .endInString []
    | b :: s =>
      if b != 0x5C then refuse .endOfHexEscape s
      else match s with
        | [] => refuse .endInString []
        | b :: s =>
          if b != 0x75 then refuse .endOfHexEscape s
          else
            let (m, s) ← fourHex s
            if m < 0xDC00 ∨ 0xDFFF < m then refuse .loneSurrogate s
            else return (Char.ofNat (0x10000 + (n - 0xD800) * 0x400 + (m - 0xDC00)), s)

/-- The character of an escape, after its backslash. -/
def escape : Reader Char
  | [] => refuse .endInString []
  | b :: s =>
    match b.toNat with
    | 0x22 => .ok ('"', s)
    | 0x5C => .ok ('\\', s)
    | 0x2F => .ok ('/', s)
    | 0x62 => .ok ('\x08', s)
    | 0x66 => .ok ('\x0C', s)
    | 0x6E => .ok ('\n', s)
    | 0x72 => .ok ('\r', s)
    | 0x74 => .ok ('\t', s)
    | 0x75 => unicodeEscape s
    | _ => refuse .invalidEscape s

/-- The bytes of a string after its opening quote, the latest first in `acc`. -/
def stringBytes (acc : List UInt8) : Nat → Reader (List UInt8)
  | 0, s => refuse .endInString s
  | fuel + 1, s =>
    match s with
    | [] => refuse .endInString []
    | b :: r =>
      if b == 0x22 then .ok (acc.reverse, r)
      else if b == 0x5C then do
        let (c, r) ← escape r
        stringBytes ((String.utf8EncodeChar c).reverse ++ acc) fuel r
      else if b < 0x20 then refuse .controlCharacter r
      else stringBytes (b :: acc) fuel r

/-- A string after its opening quote. -/
def stringBody (s : List UInt8) : Except Refusal (String × List UInt8) := do
  let (bytes, r) ← stringBytes [] (s.length + 1) s
  return (.ofList (Text.Utf8.decodeLossy bytes), r)

/-- A significand scaled by a power of ten, in double arithmetic. Powers beyond the table are taken
in steps, which end at zero or in a refusal. -/
def scaled (f : Float) (exponent : Int) (s : List UInt8) : Nat → Except Refusal Float
  | 0 => .ok f
  | steps + 1 =>
    if exponent.natAbs ≤ 308 then
      let power := Float.ofScientific 1 false exponent.natAbs
      if exponent < 0 then .ok (f / power)
      else if (f * power).isInf then refuse .numberOutOfRange s
      else .ok (f * power)
    else if f == 0.0 then .ok f
    else if 0 ≤ exponent then refuse .numberOutOfRange s
    else scaled (f / 1e308) (exponent + 308) s steps

/-- The double of a significand, an exponent and a sign. -/
def realOf (positive : Bool) (significand : Nat) (exponent : Int) (s : List UInt8) :
    Except Refusal (Number × List UInt8) := do
  let f ← scaled (Float.ofNat significand) exponent s 16
  return (.real (if positive then f else -f), s)

/-- The digits of an exponent beyond the first; none if they exceed 32 bits. -/
def exponentDigits (acc : Nat) : List UInt8 → Option Nat × List UInt8
  | [] => (some acc, [])
  | b :: s =>
    if isDigit b then
      let next := acc * 10 + digitOf b
      if maxI32 < next then (none, s) else exponentDigits next s
    else (some acc, b :: s)

/-- An exponent after its letter. -/
def exponentPart (positive : Bool) (significand : Nat) (start : Int) (s : List UInt8) :
    Except Refusal (Number × List UInt8) :=
  let (up, s) := match s with
    | b :: r => if b == 0x2B then (true, r) else if b == 0x2D then (false, r) else (true, s)
    | [] => (true, s)
  match s with
  | [] => refuse .endInValue []
  | b :: s =>
    if !isDigit b then refuse .invalidNumber s
    else match exponentDigits (digitOf b) s with
      | (some e, s) =>
        let final := if up then start + e else start - e
        realOf positive significand (clamp (-0x80000000) 0x7FFFFFFF final) s
      | (none, s) =>
        if significand != 0 && up then refuse .numberOutOfRange s
        else .ok (.real (if positive then 0.0 else -0.0), s.dropWhile isDigit)

/-- What may follow the digits of a number with a fraction. -/
def afterFraction (positive : Bool) (significand : Nat) (exponent : Int) (s : List UInt8) :
    Except Refusal (Number × List UInt8) :=
  match s with
  | b :: r =>
    if b == 0x65 || b == 0x45 then exponentPart positive significand exponent r
    else realOf positive significand exponent s
  | [] => realOf positive significand exponent []

/-- The digits after a point. Those beyond 64 bits of significand are dropped. -/
def fraction (positive : Bool) (first : Bool) (significand : Nat) (exponent : Int) :
    List UInt8 → Except Refusal (Number × List UInt8)
  | [] => if first then refuse .endInValue [] else realOf positive significand exponent []
  | b :: s =>
    if isDigit b then
      let next := significand * 10 + digitOf b
      if maxU64 < next then afterFraction positive significand exponent (s.dropWhile isDigit)
      else fraction positive false next (exponent - 1) s
    else if first then refuseAhead .invalidNumber (b :: s)
    else afterFraction positive significand exponent (b :: s)

/-- The digits of an integer beyond 64 bits only count. -/
def longInteger (positive : Bool) (significand : Nat) (exponent : Int) :
    List UInt8 → Except Refusal (Number × List UInt8)
  | [] => realOf positive significand exponent []
  | b :: s =>
    if isDigit b then longInteger positive significand (exponent + 1) s
    else if b == 0x2E then fraction positive true significand exponent s
    else if b == 0x65 || b == 0x45 then exponentPart positive significand exponent s
    else realOf positive significand exponent (b :: s)

/-- What follows the integer part of a number. -/
def afterInteger (positive : Bool) (significand : Nat) (s : List UInt8) :
    Except Refusal (Number × List UInt8) :=
  let whole : Number :=
    if positive then .integer significand
    else if significand == 0 || 0x8000000000000000 < significand then
      .real (-(Float.ofNat significand))
    else .integer (-(significand : Int))
  match s with
  | b :: r =>
    if b == 0x2E then fraction positive true significand 0 r
    else if b == 0x65 || b == 0x45 then exponentPart positive significand 0 r
    else .ok (whole, s)
  | [] => .ok (whole, [])

/-- The digits of an integer after the first. -/
def integerDigits (positive : Bool) (significand : Nat) :
    List UInt8 → Except Refusal (Number × List UInt8)
  | [] => afterInteger positive significand []
  | b :: s =>
    if isDigit b then
      let next := significand * 10 + digitOf b
      if maxU64 < next then longInteger positive significand 0 (b :: s)
      else integerDigits positive next s
    else afterInteger positive significand (b :: s)

/-- A number after its sign. -/
def numeral (positive : Bool) : Reader Number
  | [] => refuse .endInValue []
  | b :: s =>
    if b == 0x30 then
      match s with
      | c :: _ => if isDigit c then refuseAhead .invalidNumber s else afterInteger positive 0 s
      | [] => afterInteger positive 0 []
    else if isDigit b then integerDigits positive (digitOf b) s
    else refuse .invalidNumber s

/-- The elements of a list after its opening bracket, the latest first in `acc`. -/
def elements (value : Reader Json) (acc : List Json) : Nat → Reader (List Json)
  | 0, s => refuse .endInList s
  | fuel + 1, s =>
    match skipSpace s with
    | [] => refuse .endInList []
    | b :: r =>
      if b == 0x5D then .ok (acc.reverse, r)
      else if acc.isEmpty then do
        let (j, r) ← value (b :: r)
        elements value (j :: acc) fuel r
      else if b != 0x2C then refuseAhead .expectedListEnd (b :: r)
      else match skipSpace r with
        | [] => refuse .endInValue []
        | c :: r =>
          if c == 0x5D then refuseAhead .trailingComma (c :: r)
          else do
            let (j, r) ← value (c :: r)
            elements value (j :: acc) fuel r

/-- A member after the quote that opens its key. -/
def member (value : Reader Json) (s : List UInt8) : Except Refusal ((String × Json) × List UInt8) :=
  do
  let (key, r) ← stringBody s
  match skipSpace r with
  | [] => refuse .endInObject []
  | b :: r =>
    if b != 0x3A then refuseAhead .expectedColon (b :: r)
    else
      let (j, r) ← value r
      return ((key, j), r)

/-- The members of an object after its opening brace, the latest first in `acc`. -/
def members (value : Reader Json) (acc : List (String × Json)) : Nat → Reader (List (String × Json))
  | 0, s => refuse .endInObject s
  | fuel + 1, s =>
    match skipSpace s with
    | [] => refuse .endInObject []
    | b :: r =>
      if b == 0x7D then .ok (acc.reverse, r)
      else if acc.isEmpty then
        if b != 0x22 then refuseAhead .keyMustBeString (b :: r)
        else do
          let (m, r) ← member value r
          members value (m :: acc) fuel r
      else if b != 0x2C then refuseAhead .expectedObjectEnd (b :: r)
      else match skipSpace r with
        | [] => refuse .endInValue []
        | c :: r =>
          if c == 0x7D then refuseAhead .trailingComma (c :: r)
          else if c != 0x22 then refuseAhead .keyMustBeString (c :: r)
          else do
            let (m, r) ← member value r
            members value (m :: acc) fuel r

/-- A value; `depth` counts the levels of nesting still allowed. -/
def value : Nat → Reader Json
  | 0, s => refuseAhead .tooDeep s
  | depth + 1, s =>
    match skipSpace s with
    | [] => refuse .endInValue []
    | b :: r =>
      match b.toNat with
      | 0x6E => keyword .null "ull".toUTF8.toList r
      | 0x74 => keyword (.bool true) "rue".toUTF8.toList r
      | 0x66 => keyword (.bool false) "alse".toUTF8.toList r
      | 0x2D => do
        let (n, r) ← numeral false r
        return (.number n, r)
      | 0x22 => do
        let (t, r) ← stringBody r
        return (.string t, r)
      | 0x5B =>
        if depth == 0 then refuseAhead .tooDeep (b :: r)
        else do
          let (js, r) ← elements (value depth) [] (r.length + 1) r
          return (.array js, r)
      | 0x7B =>
        if depth == 0 then refuseAhead .tooDeep (b :: r)
        else do
          let (ms, r) ← members (value depth) [] (r.length + 1) r
          return (.object ms, r)
      | _ =>
        if isDigit b then do
          let (n, r) ← numeral true (b :: r)
          return (.number n, r)
        else refuseAhead .expectedValue (b :: r)

/-- A refusal with its place in the text. -/
structure Fault where
  cause : Cause
  line : Nat
  column : Nat
  deriving DecidableEq, Repr

def Fault.message (f : Fault) : String :=
  f.cause.message ++ " at line " ++ toString f.line ++ " column " ++ toString f.column

/-- The line and column of a byte offset. -/
def Refusal.locate (r : Refusal) (text : List UInt8) : Fault :=
  let before := text.take (text.length - r.left)
  let column := (before.reverse.takeWhile (· != 0x0A)).length
  ⟨r.cause, 1 + before.count 0x0A, column⟩

/-- Reads a whole text. -/
def parse (text : String) : Except Fault Json :=
  let bytes := Text.Utf8.bytesOf text
  match value 128 bytes with
  | .error r => .error (r.locate bytes)
  | .ok (j, rest) =>
    match skipSpace rest with
    | [] => .ok j
    | r => .error (Refusal.locate ⟨.trailingCharacters, r.length - 1⟩ bytes)

end Volley.Json
