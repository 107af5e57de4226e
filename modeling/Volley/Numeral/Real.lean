import Volley.Numeral.Integer

/-!
# Reading real numbers

The text of a real: an optional sign, then digits with an optional point and exponent, or a name of
infinity or of the undefined value in any letter case. Values beyond the doubles read as infinite.
-/

namespace Volley.Numeral

/-- Why a text is no real. -/
inductive RealFault where
  | empty
  | invalid
  deriving DecidableEq, Repr

def RealFault.message : RealFault → String
  | .empty => "cannot parse float from empty string"
  | .invalid => "invalid float literal"

/-- The value of a digit string. -/
def digitsValue (ds : List Char) : Nat :=
  ds.foldl (fun n c => n * 10 + (c.toNat - '0'.toNat)) 0

/-- The double nearest to `mantissa · 10^exponent`. -/
def nearestDouble (mantissa : Nat) (exponent : Int) : Float :=
  let size : Int := (decimal mantissa).length
  if mantissa == 0 then 0.0
  else if exponent + size < -330 then 0.0
  else if 330 < exponent + size then 1.0 / 0.0
  else if 0 ≤ exponent then Float.ofScientific mantissa false exponent.toNat
  else Float.ofScientific mantissa true (-exponent).toNat

/-- An exponent's digits, with an optional sign. -/
def parseExponent (s : List Char) : Option Int :=
  let (negative, ds) := match s with
    | '-' :: r => (true, r)
    | '+' :: r => (false, r)
    | r => (false, r)
  if ds.isEmpty || !ds.all Char.isDigit then none
  else
    let n : Int := digitsValue ds
    some (if negative then -n else n)

/-- A magnitude without its sign. -/
def parseMagnitude (s : List Char) : Option Float :=
  let name := s.map Char.toLower
  if name == "inf".toList || name == "infinity".toList then some (1.0 / 0.0)
  else if name == "nan".toList then some (0.0 / 0.0)
  else
    let whole := s.takeWhile Char.isDigit
    let r := s.dropWhile Char.isDigit
    let (part, r) := match r with
      | '.' :: r => (r.takeWhile Char.isDigit, r.dropWhile Char.isDigit)
      | r => ([], r)
    if whole.isEmpty && part.isEmpty then none
    else
      let exponent := match r with
        | [] => some 0
        | c :: r => if c == 'e' || c == 'E' then parseExponent r else none
      exponent.map fun e => nearestDouble (digitsValue (whole ++ part)) (e - part.length)

/-- Reads a real. -/
def parseReal (s : List Char) : Except RealFault Float :=
  match s with
  | [] => .error .empty
  | '-' :: r => match parseMagnitude r with
    | some x => .ok (-x)
    | none => .error .invalid
  | '+' :: r => match parseMagnitude r with
    | some x => .ok x
    | none => .error .invalid
  | r => match parseMagnitude r with
    | some x => .ok x
    | none => .error .invalid

end Volley.Numeral
