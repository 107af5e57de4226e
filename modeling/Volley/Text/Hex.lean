/-!
# Hexadecimal digits

Digits are written in lower case and read in either case; a byte has two of them.
-/

namespace Volley.Text.Hex

/-- The digit of a number below sixteen. -/
def digit (n : Nat) : Char := if n < 10 then Char.ofNat (48 + n) else Char.ofNat (87 + n)

def value? (c : Char) : Option Nat :=
  if c.isDigit then some (c.toNat - 48)
  else if 'a' ≤ c ∧ c ≤ 'f' then some (c.toNat - 87)
  else if 'A' ≤ c ∧ c ≤ 'F' then some (c.toNat - 55)
  else none

def ofByte (b : UInt8) : List Char := [digit (b.toNat / 16), digit (b.toNat % 16)]

/-- The digits of bytes. -/
def render (bytes : List UInt8) : String := .ofList (bytes.flatMap ofByte)

/-- The byte of two digits. -/
def byte? (a b : Char) : Option UInt8 := do return UInt8.ofNat ((← value? a) * 16 + (← value? b))

/-- The bytes that digits stand for. -/
def parse? : List Char → Option (List UInt8)
  | [] => some []
  | a :: b :: r => do return (← byte? a b) :: (← parse? r)
  | _ => none

end Volley.Text.Hex
