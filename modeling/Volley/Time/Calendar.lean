import Volley.Time.Basic
import Volley.Text.Blank

/-!
# Calendar dates

Days of the proleptic Gregorian calendar, and the written form of a timestamp: a date, a `T`, a
time of day with as many fraction digits as it needs (none, three, six or nine) and a `Z`. The
reader is wider: blanks around the parts, a blank or a small `t` between date and time, offsets,
and a sixtieth second.
-/

namespace Volley.Calendar

open Numeral

structure Date where
  year : Int
  month : Nat
  day : Nat
  deriving DecidableEq, Repr

def isLeap (year : Int) : Bool :=
  year % 4 == 0 && (year % 100 != 0 || year % 400 == 0)

def daysInMonth (year : Int) (month : Nat) : Nat :=
  match month with
  | 2 => if isLeap year then 29 else 28
  | 4 | 6 | 9 | 11 => 30
  | _ => 31

/-- Days since the first of January 1970. Years are counted from March, in cycles of 400. -/
def Date.toDays (d : Date) : Int :=
  let y := if d.month ≤ 2 then d.year - 1 else d.year
  let cycle := y.fdiv 400
  let yearOfCycle := y - cycle * 400
  let monthFromMarch : Int := ((d.month + 9) % 12 : Nat)
  let dayOfYear := (153 * monthFromMarch + 2) / 5 + d.day - 1
  let dayOfCycle := yearOfCycle * 365 + yearOfCycle / 4 - yearOfCycle / 100 + dayOfYear
  cycle * 146097 + dayOfCycle - 719468

/-- The date of a day. -/
def Date.ofDays (days : Int) : Date :=
  let z := days + 719468
  let cycle := z.fdiv 146097
  let dayOfCycle := z - cycle * 146097
  let yearOfCycle :=
    (dayOfCycle - dayOfCycle / 1460 + dayOfCycle / 36524 - dayOfCycle / 146096) / 365
  let dayOfYear := dayOfCycle - (365 * yearOfCycle + yearOfCycle / 4 - yearOfCycle / 100)
  let m := (5 * dayOfYear + 2) / 153
  let day := dayOfYear - (153 * m + 2) / 5 + 1
  let month := if m < 10 then m + 3 else m - 9
  let year := yearOfCycle + cycle * 400 + (if month ≤ 2 then 1 else 0)
  ⟨year, month.toNat, day.toNat⟩

/-- A year in four digits, with a sign beyond them. -/
def renderYear (year : Int) : List Char :=
  if 0 ≤ year ∧ year ≤ 9999 then zeroPadded 4 year.natAbs
  else (if year < 0 then '-' else '+') :: zeroPadded 4 year.natAbs

/-- The fraction of a second, in the fewest groups of three digits. -/
def renderFraction (nanos : Nat) : List Char :=
  if nanos == 0 then []
  else if nanos % 1000000 == 0 then '.' :: zeroPadded 3 (nanos / 1000000)
  else if nanos % 1000 == 0 then '.' :: zeroPadded 6 (nanos / 1000)
  else '.' :: zeroPadded 9 nanos

/-- The written form of a timestamp. -/
def render (t : Timestamp) : String :=
  let days := t.secs.fdiv 86400
  let second := (t.secs - days * 86400).toNat
  let date := Date.ofDays days
  let leap := 1000000000 ≤ t.nanos
  let sec := second % 60 + (if leap then 1 else 0)
  let nanos := if leap then t.nanos - 1000000000 else t.nanos
  .ofList (renderYear date.year ++ '-' :: zeroPadded 2 date.month ++ '-' :: zeroPadded 2 date.day ++
    'T' :: zeroPadded 2 (second / 3600) ++ ':' :: zeroPadded 2 (second / 60 % 60) ++
    ':' :: zeroPadded 2 sec ++ renderFraction nanos ++ ['Z'])

/-- A reader of a part of the written form, with the rest of the text. -/
abbrev Part (α : Type) := List Char → Option (α × List Char)

/-- At least one digit and at most `width`. -/
def digits (width : Nat) : Part Nat := fun s =>
  let ds := (s.take width).takeWhile Char.isDigit
  if ds.isEmpty then none
  else some (ds.foldl (fun n c => n * 10 + (c.toNat - 48)) 0, s.drop ds.length)

/-- A number of at most `width` digits after blanks, within a range. -/
def field (width low high : Nat) : Part Nat := fun s => do
  let (n, r) ← digits width (Text.trimStart s)
  if low ≤ n ∧ n ≤ high then some (n, r) else none

/-- A literal after blanks. -/
def literal (c : Char) : Part Unit := fun s =>
  match Text.trimStart s with
  | d :: r => if d = c then some ((), r) else none
  | [] => none

/-- A year: four digits, or any number of them after a sign. -/
def year : Part Int := fun s =>
  match Text.trimStart s with
  | '-' :: r => (digits r.length r).map fun (n, r) => (-(n : Int), r)
  | '+' :: r => (digits r.length r).map fun (n, r) => ((n : Int), r)
  | r => (digits 4 r).map fun (n, r) => ((n : Int), r)

/-- The nanoseconds of an optional fraction; digits after the ninth are dropped. -/
def fraction : Part Nat := fun s =>
  match s with
  | '.' :: r => do
    let shown := (r.take 9).takeWhile Char.isDigit
    let (n, _) ← digits 9 r
    some (n * Nat.pow 10 (9 - shown.length), r.dropWhile Char.isDigit)
  | r => some (0, r)

/-- An offset from universal time in seconds. -/
def offset : Part Int := fun s =>
  if (s.take 3).map Char.toUpper = ['U', 'T', 'C'] then some (0, s.drop 3)
  else match s with
    | 'Z' :: r => some (0, r)
    | 'z' :: r => some (0, r)
    | sign :: h1 :: h2 :: r =>
      if (sign = '+' ∨ sign = '-' ∨ sign = '\u2212') ∧ h1.isDigit ∧ h2.isDigit then
        match r.dropWhile (fun c => c == ':' || Text.isBlank c) with
        | m1 :: m2 :: r =>
          if m1.isDigit ∧ m1.toNat < 54 ∧ m2.isDigit then
            let value (a b : Char) : Int := (a.toNat - 48) * 10 + (b.toNat - 48)
            let total := value h1 h2 * 3600 + value m1 m2 * 60
            some (if sign = '+' then total else -total, r)
          else none
        | _ => none
      else none
    | _ => none

/-- Reads the written form of a timestamp. -/
def parse? (text : String) : Option Timestamp := do
  let (year, s) ← year text.toList
  let (_, s) ← literal '-' s
  let (month, s) ← field 2 1 12 s
  let (_, s) ← literal '-' s
  let (day, s) ← field 2 1 31 s
  let s ← match s with
    | c :: r => if c = 'T' ∨ c = 't' ∨ c = ' ' then some r else none
    | [] => none
  let (hour, s) ← field 2 0 23 s
  let (_, s) ← literal ':' s
  let (minute, s) ← field 2 0 59 s
  let (_, s) ← literal ':' s
  let (second, s) ← field 2 0 60 s
  let (nanos, s) ← fraction s
  let (offset, s) ← offset (Text.trimStart s)
  if !Text.isBlankText s ∨ 86400 ≤ offset.natAbs then none
  else if year < -262143 ∨ 262142 < year ∨ daysInMonth year month < day then none
  else
    let leap := second == 60
    let secondOfDay : Int := (hour * 3600 + minute * 60 + (if leap then 59 else second) : Nat)
    let secs := Date.toDays ⟨year, month, day⟩ * 86400 + secondOfDay - offset
    Timestamp.at? secs (if leap then nanos + 1000000000 else nanos)

end Volley.Calendar
