/-!
# Decimal integers

Reading a decimal integer into a bounded range, with the cause of a refusal, and writing one.
Digits are taken from the left, so the first fault on the way is the one reported: a number is too
large as soon as the digits read so far exceed the bound, whatever follows them.
-/

namespace Volley.Numeral

/-- Why a text is no integer of the range. -/
inductive IntegerFault where
  | empty
  | invalidDigit
  | tooLarge
  | tooSmall
  deriving DecidableEq, Repr

def IntegerFault.message : IntegerFault → String
  | .empty => "cannot parse integer from empty string"
  | .invalidDigit => "invalid digit found in string"
  | .tooLarge => "number too large to fit in target type"
  | .tooSmall => "number too small to fit in target type"

/-- The value of an ASCII digit. -/
def digit? (c : Char) : Option Nat :=
  if c.isDigit then some (c.toNat - '0'.toNat) else none

/-- Continues `acc` by the digits, refusing with `over` once the value exceeds `max`. -/
def digitsUpTo (max : Nat) (surplus : IntegerFault) (acc : Nat) :
    List Char → Except IntegerFault Nat
  | [] => .ok acc
  | c :: r =>
    match digit? c with
    | none => .error .invalidDigit
    | some d =>
      let next := acc * 10 + d
      if max < next then .error surplus else digitsUpTo max surplus next r

/-- A natural number up to `max`, with an optional plus sign. -/
def parseNat (max : Nat) : List Char → Except IntegerFault Nat
  | [] => .error .empty
  | ['+'] => .error .invalidDigit
  | '+' :: r => digitsUpTo max .tooLarge 0 r
  | s => digitsUpTo max .tooLarge 0 s

/-- An integer from `-(max + 1)` to `max`, with an optional sign. -/
def parseInt (max : Nat) : List Char → Except IntegerFault Int
  | [] => .error .empty
  | ['+'] => .error .invalidDigit
  | ['-'] => .error .invalidDigit
  | '-' :: r => (digitsUpTo (max + 1) .tooSmall 0 r).map fun n => -(n : Int)
  | '+' :: r => (digitsUpTo max .tooLarge 0 r).map fun n => (n : Int)
  | s => (digitsUpTo max .tooLarge 0 s).map fun n => (n : Int)

def maxU8 : Nat := 0xFF
def maxU32 : Nat := 0xFFFFFFFF
def maxU64 : Nat := 0xFFFFFFFFFFFFFFFF
def maxI32 : Nat := 0x7FFFFFFF
def maxI64 : Nat := 0x7FFFFFFFFFFFFFFF

/-- The decimal digits of a natural number. -/
def decimal (n : Nat) : List Char := Nat.toDigits 10 n

/-- The decimal digits of an integer after its minus sign. -/
def signedDecimal (i : Int) : List Char :=
  if i < 0 then '-' :: decimal i.natAbs else decimal i.natAbs

/-- Zeros in front, up to the width. -/
def zeroPadded (width : Nat) (n : Nat) : List Char :=
  let ds := decimal n
  List.replicate (width - ds.length) '0' ++ ds

/-- An integer clamped to a range. -/
def clamp (low high i : Int) : Int := if i < low then low else if high < i then high else i

end Volley.Numeral
