import Volley.Text.Split

/-!
# Labels beyond ASCII in ASCII

A label is written as its ASCII characters, a hyphen, and the other characters in rising order, each
as the number of steps since the one before. Such a number has base 36, and the weight of its digits
adapts to the sizes seen so far.
-/

namespace Volley.Url.Punycode

def digitChar (d : Nat) : Char := if d < 26 then Char.ofNat (97 + d) else Char.ofNat (22 + d)

def digitValue? (c : Char) : Option Nat :=
  if 'a' ≤ c ∧ c ≤ 'z' then some (c.toNat - 97)
  else if 'A' ≤ c ∧ c ≤ 'Z' then some (c.toNat - 65)
  else if c.isDigit then some (c.toNat - 22)
  else none

/-- The least value of a digit after which others follow. -/
def threshold (place bias : Nat) : Nat :=
  if place ≤ bias then 1 else if bias + 26 ≤ place then 26 else place - bias

theorem threshold_pos (place bias : Nat) : 0 < threshold place bias := by
  unfold threshold
  split
  · omega
  · split <;> omega

def scaleDown (delta place : Nat) : Nat × Nat :=
  if 455 < delta then scaleDown (delta / 35) (place + 36) else (delta, place)
termination_by delta
decreasing_by exact Nat.div_lt_self (by omega) (by omega)

/-- The bias for the next number. -/
def adapt (delta count : Nat) (first : Bool) : Nat :=
  let d := if first then delta / 700 else delta / 2
  let (d, place) := scaleDown (d + d / count) 0
  place + 36 * d / (d + 38)

/-- A number in digits of adaptive weight. -/
def digits (bias place n : Nat) : List Char :=
  let t := threshold place bias
  if n < t then [digitChar n]
  else digitChar (t + (n - t) % (36 - t)) :: digits bias (place + 36) ((n - t) / (36 - t))
termination_by n
decreasing_by
  have := threshold_pos place bias
  exact Nat.lt_of_le_of_lt (Nat.div_le_self _ _) (by omega)

structure Writer where
  out : List Char
  delta : Nat
  bias : Nat
  written : Nat

/-- Passes one character while those with code `code` are written. -/
def Writer.pass (basic code : Nat) (w : Writer) (c : Char) : Writer :=
  if c.toNat < code then { w with delta := w.delta + 1 }
  else if c.toNat = code then
    { out := w.out ++ digits w.bias 36 w.delta
      delta := 0
      bias := adapt w.delta (w.written + 1) (w.written == basic)
      written := w.written + 1 }
  else w

def insertCode (n : Nat) : List Nat → List Nat
  | [] => [n]
  | m :: r => if n < m then n :: m :: r else if n = m then m :: r else m :: insertCode n r

def Writer.run (label : List Char) (basic : Nat) : List Nat → Nat → Writer → Writer
  | [], _, w => w
  | code :: codes, from_, w =>
    let w := { w with delta := w.delta + (code - from_) * (w.written + 1) }
    let w := label.foldl (Writer.pass basic code) w
    run label basic codes (code + 1) { w with delta := w.delta + 1 }

/-- The written form of a label, without its mark. -/
def encode (label : List Char) : List Char :=
  let basic := label.filter (·.toNat < 128)
  let codes := (label.filter (128 ≤ ·.toNat)).foldl (fun l c => insertCode c.toNat l) []
  let start : Writer := ⟨[], 0, 72, basic.length⟩
  basic ++ (if basic.isEmpty then [] else ['-']) ++ (start.run label basic.length codes 128).out

/-- Reads a number; its value and the characters after it. -/
def readNumber? (bias place weight acc : Nat) : List Char → Option (Nat × List Char)
  | [] => none
  | c :: r => do
    let d ← digitValue? c
    let acc := acc + d * weight
    let t := threshold place bias
    if d < t then return (acc, r)
    else readNumber? bias (place + 36) (weight * (36 - t)) acc r

def isScalar (n : Nat) : Bool := n < 0xD800 || (0xDFFF < n && n < 0x110000)

/-- Inserts the characters that the numbers stand for. An index of zero is only ever the first. -/
def insertAll? : Nat → List Char → Nat → Nat → Nat → List Char → Option (List Char)
  | _, out, _, _, _, [] => some out
  | 0, _, _, _, _, _ :: _ => none
  | fuel + 1, out, code, index, bias, c :: r => do
    let (delta, rest) ← readNumber? bias 36 1 0 (c :: r)
    let count := out.length + 1
    let total := index + delta
    let next := code + total / count
    let place := total % count
    if !isScalar next then none
    else
      let out := out.take place ++ Char.ofNat next :: out.drop place
      insertAll? fuel out next (place + 1) (adapt delta count (index == 0)) rest

/-- The label that a written form stands for. -/
def decode? (text : List Char) : Option (List Char) :=
  let (basic, rest) := match Text.cutLast? '-' text with
    | some (basic, rest) => (basic, rest)
    | none => ([], text)
  insertAll? rest.length basic 128 0 72 rest

end Volley.Url.Punycode
