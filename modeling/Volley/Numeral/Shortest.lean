/-!
# Decimal texts of binary numbers

A finite double is `m · 2^q`. Its shortest decimal is the one with the fewest digits among those
that lie in the interval of reals that round to it, and of these the nearest. The search tries the
two neighbours of the value on the grids of 1, 2, …, 17 digits, in exact arithmetic. How the digits
are laid out is a record, one per output format.
-/

namespace Volley.Numeral

/-- A finite double's magnitude: `mantissa · 2^exponent`. -/
structure Binary where
  mantissa : Nat
  exponent : Int
  /-- The gap below is half the gap above. -/
  narrowBelow : Bool
  deriving DecidableEq, Repr

/-- What the bits of a double stand for. -/
inductive RealClass where
  | nan
  | infinite (negative : Bool)
  | finite (negative : Bool) (magnitude : Binary)
  deriving DecidableEq, Repr

/-- Takes the bits of a double apart. -/
def classify (bits : UInt64) : RealClass :=
  let n := bits.toNat
  let negative := n / 0x8000000000000000 == 1
  let biased : Nat := n / 0x10000000000000 % 0x800
  let fraction := n % 0x10000000000000
  if biased == 2047 then
    if fraction == 0 then .infinite negative else .nan
  else if biased == 0 then .finite negative ⟨fraction, -1074, false⟩
  else
    .finite negative
      ⟨0x10000000000000 + fraction, (biased : Int) - 1075, fraction == 0 && biased != 1⟩

/-- A positive fraction. -/
structure Ratio where
  num : Nat
  den : Nat
  deriving DecidableEq, Repr

/-- `n · 2^e` as a fraction. -/
def Ratio.ofBinary (n : Nat) (e : Int) : Ratio :=
  if 0 ≤ e then ⟨n * Nat.pow 2 e.toNat, 1⟩ else ⟨n, Nat.pow 2 (-e).toNat⟩

/-- The fraction times `10^e`. -/
def Ratio.scale (r : Ratio) (e : Int) : Ratio :=
  if 0 ≤ e then ⟨r.num * Nat.pow 10 e.toNat, r.den⟩ else ⟨r.num, r.den * Nat.pow 10 (-e).toNat⟩

/-- Rounds to the nearest integer, a tie to the even one. -/
def Ratio.roundEven (r : Ratio) : Nat :=
  let q := r.num / r.den
  let rest := r.num % r.den
  if r.den < 2 * rest then q + 1
  else if 2 * rest < r.den then q
  else if q % 2 == 0 then q else q + 1

/-- How many zeros follow the point in a fraction below one, at most `limit`. -/
def leadingZeros (r : Ratio) : Nat → Nat
  | 0 => 0
  | limit + 1 => if r.den ≤ r.num * 10 then 0 else 1 + leadingZeros ⟨r.num * 10, r.den⟩ limit

/-- The `p` with `10^(p-1) ≤ r < 10^p`. -/
def Ratio.magnitude (r : Ratio) : Int :=
  if r.den ≤ r.num then ((Nat.toDigits 10 (r.num / r.den)).length : Int)
  else -(leadingZeros r 400 : Int)

/-- Decimal digits `d` with the value `0.d · 10^point`. -/
structure Decimal where
  digits : List Char
  point : Int
  deriving DecidableEq, Repr

/-- The reals that round to a double, and the double. -/
structure Interval where
  low : Ratio
  value : Ratio
  high : Ratio
  closed : Bool

def Binary.interval (b : Binary) : Interval where
  low := .ofBinary (if b.narrowBelow then 4 * b.mantissa - 1 else 4 * b.mantissa - 2)
    (b.exponent - 2)
  value := .ofBinary (4 * b.mantissa) (b.exponent - 2)
  high := .ofBinary (4 * b.mantissa + 2) (b.exponent - 2)
  closed := b.mantissa % 2 == 0

/-- Whether the integer `n` lies in the interval scaled by `10^e`. -/
def Interval.holds (i : Interval) (e : Int) (n : Nat) : Bool :=
  let low := i.low.scale e
  let high := i.high.scale e
  if i.closed then low.num ≤ n * low.den && n * high.den ≤ high.num
  else low.num < n * low.den && n * high.den < high.num

/-- The point of the grid of `count` digits that stands for the value, if one does. -/
def Interval.onGrid (i : Interval) (magnitude : Int) (count : Nat) : Option Nat :=
  let e := (count : Int) - magnitude
  let v := i.value.scale e
  let below := v.num / v.den
  match i.holds e below, i.holds e (below + 1) with
  | false, false => none
  | true, false => some below
  | false, true => some (below + 1)
  | true, true => some v.roundEven

/-- The first grid with a hit, from `count` digits on. -/
def Interval.search (i : Interval) (magnitude : Int) (count : Nat) : Nat → Nat × Nat
  | 0 => ((i.value.scale ((count : Int) - magnitude)).roundEven, count)
  | more + 1 =>
    match i.onGrid magnitude count with
    | some n => (n, count)
    | none => i.search magnitude (count + 1) more

/-- The shortest decimal that reads back as the double; zero has the digit 0. -/
def Binary.shortest (b : Binary) : Decimal :=
  if b.mantissa == 0 then ⟨['0'], 1⟩
  else
    let i := b.interval
    let magnitude := i.value.magnitude
    let (n, count) := i.search magnitude 1 17
    let digits := Nat.toDigits 10 n
    let point := magnitude + (digits.length : Int) - (count : Int)
    ⟨(digits.reverse.dropWhile (· == '0')).reverse, point⟩

/-- How a format lays out a number. -/
structure Layout where
  /-- The decimal exponents that are written positionally; all of them if absent. -/
  positional : Option (Int × Int)
  /-- Whether a whole number written positionally ends in a point and a zero. -/
  marksWhole : Bool
  nan : String
  infinity : String
  /-- Whether negative zero shows its sign. -/
  signedZero : Bool

/-- Digits with the point after `point` of them. -/
def Decimal.positional (d : Decimal) (marksWhole : Bool) : List Char :=
  let count : Int := d.digits.length
  if d.point ≤ 0 then '0' :: '.' :: (List.replicate (-d.point).toNat '0' ++ d.digits)
  else if count ≤ d.point then
    d.digits ++ List.replicate (d.point - count).toNat '0' ++
      (if marksWhole then ['.', '0'] else [])
  else d.digits.take d.point.toNat ++ '.' :: d.digits.drop d.point.toNat

/-- One digit before the point, and a signed exponent. -/
def Decimal.scientific (d : Decimal) : List Char :=
  let e := d.point - 1
  let mantissa := match d.digits with
    | [] => ['0']
    | [c] => [c]
    | c :: r => c :: '.' :: r
  mantissa ++ 'e' :: (if e < 0 then '-' else '+') :: Nat.toDigits 10 e.natAbs

/-- The text of a double in a layout. -/
def Layout.render (l : Layout) (x : Float) : String :=
  match classify x.toBits with
  | .nan => l.nan
  | .infinite negative => if negative then "-" ++ l.infinity else l.infinity
  | .finite negative b =>
    let d := b.shortest
    let isZero := b.mantissa == 0
    let plain := isZero || match l.positional with
      | none => true
      | some (low, high) => low ≤ d.point - 1 && d.point - 1 ≤ high
    let body := if plain then d.positional l.marksWhole else d.scientific
    .ofList (if negative && (!isZero || l.signedZero) then '-' :: body else body)

/-- Never an exponent, whole numbers bare. -/
def Layout.plain : Layout := ⟨none, false, "NaN", "inf", true⟩

/-- Exponents outside -5 to 15, whole numbers with a zero after the point. -/
def Layout.json : Layout := ⟨some (-5, 15), true, "null", "null", true⟩

/-- Exponents outside -6 to 20, whole numbers bare, zero without a sign. -/
def Layout.script : Layout := ⟨some (-6, 20), false, "NaN", "Infinity", false⟩

/-- A double with a fixed number of places, the exact value rounded with ties to even. -/
def fixedPlaces (places : Nat) (x : Float) : String :=
  match classify x.toBits with
  | .nan => "NaN"
  | .infinite negative => if negative then "-inf" else "inf"
  | .finite negative b =>
    let n := ((Ratio.ofBinary b.mantissa b.exponent).scale places).roundEven
    let digits := Nat.toDigits 10 n
    let padded := List.replicate (places + 1 - digits.length) '0' ++ digits
    let whole := padded.take (padded.length - places)
    let part := padded.drop (padded.length - places)
    let body := if places == 0 then whole else whole ++ '.' :: part
    .ofList (if negative then '-' :: body else body)

end Volley.Numeral
