/-!
# UTF-8

Encoding, and decoding byte by byte. The decoder's state is what an unfinished character still
needs; a byte that cannot continue it marks one fault and is then looked at afresh, so each
maximal unfinished sequence is one fault. `decode?` refuses faults, `decodeLossy` puts the
replacement character for each.
-/

namespace Volley.Text.Utf8

/-- What an unfinished character still needs. -/
inductive Pending where
  /-- Between characters. -/
  | start
  /-- `owed + 1` more bytes, the next one in `[low, high]`; `acc` holds the bits so far. -/
  | inside (owed acc low high : Nat)
  deriving DecidableEq, Repr

/-- The decoder: what has been read, the latest first (`none` for a fault), and the open
character. -/
structure Decoder where
  read : List (Option Char)
  pending : Pending
  deriving DecidableEq, Repr

def Decoder.empty : Decoder := ⟨[], .start⟩

/-- A byte between characters. -/
def Decoder.lead (read : List (Option Char)) (b : Nat) : Decoder :=
  if b < 0x80 then ⟨some (Char.ofNat b) :: read, .start⟩
  else if b < 0xC2 then ⟨none :: read, .start⟩
  else if b < 0xE0 then ⟨read, .inside 0 (b - 0xC0) 0x80 0xBF⟩
  else if b = 0xE0 then ⟨read, .inside 1 0 0xA0 0xBF⟩
  else if b = 0xED then ⟨read, .inside 1 0xD 0x80 0x9F⟩
  else if b < 0xF0 then ⟨read, .inside 1 (b - 0xE0) 0x80 0xBF⟩
  else if b = 0xF0 then ⟨read, .inside 2 0 0x90 0xBF⟩
  else if b < 0xF4 then ⟨read, .inside 2 (b - 0xF0) 0x80 0xBF⟩
  else if b = 0xF4 then ⟨read, .inside 2 4 0x80 0x8F⟩
  else ⟨none :: read, .start⟩

/-- One more byte. -/
def Decoder.push (d : Decoder) (byte : UInt8) : Decoder :=
  let b := byte.toNat
  match d.pending with
  | .start => .lead d.read b
  | .inside owed acc low high =>
    if low ≤ b ∧ b ≤ high then
      let acc := acc * 64 + (b - 0x80)
      match owed with
      | 0 => ⟨some (Char.ofNat acc) :: d.read, .start⟩
      | owed + 1 => ⟨d.read, .inside owed acc 0x80 0xBF⟩
    else .lead (none :: d.read) b

/-- Everything read; a character left open is a fault. -/
def Decoder.finish (d : Decoder) : List (Option Char) :=
  match d.pending with
  | .start => d.read.reverse
  | .inside .. => (none :: d.read).reverse

/-- The characters and faults of a byte sequence. -/
def scan (bytes : List UInt8) : List (Option Char) :=
  (bytes.foldl Decoder.push .empty).finish

/-- The text, if there is no fault. -/
def decode? (bytes : List UInt8) : Option (List Char) := (scan bytes).mapM id

/-- The text, with U+FFFD for each fault. -/
def decodeLossy (bytes : List UInt8) : List Char := (scan bytes).map (·.getD '\uFFFD')

def encode (s : List Char) : List UInt8 := s.flatMap String.utf8EncodeChar

/-- The bytes of a text. -/
def bytesOf (s : String) : List UInt8 := encode s.toList

/-- The length of a text in bytes. -/
def size : List Char → Nat
  | [] => 0
  | c :: r => c.utf8Size + size r

end Volley.Text.Utf8
