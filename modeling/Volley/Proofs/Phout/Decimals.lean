import Mathlib.Algebra.Order.Floor.Semifield
import Mathlib.Data.Rat.Floor
import Mathlib.Tactic.FieldSimp
import Volley.Proofs.Phout.Line

/-!
# Decimals of a time

The digits behind the point of a time are a decimal fraction of a second, however many there are. The
reader puts zeros behind them and takes the first three, which are the whole milliseconds of that
fraction. So zeros at the end are worth nothing, and what stands behind the third digit is lost.

All that stands behind the point is looked at before any of it is valued: a sign, a second point, a
blank between digits or a digit of another script is refused, also where it is not among the first
three characters.

* `fractionOf`: the value of the digits, and `fractionOf_eq_div`, the same as one quotient.
* `fractionMillis_eq_floor`: what is taken of them.
* `parseTime_of_stray`: a text with anything but digits behind its point.
* `time_reads_decimals`: all texts of a time, and those with such a stray character.
-/
namespace Volley

namespace Numeral

/-! ## The value of decimals -/

/-- The value of digits behind a decimal point: tenths first, and then each digit counts a tenth of
the one before. -/
def fractionOf : List Char → ℚ
  | [] => 0
  | c :: r => ((c.toNat - '0'.toNat : Nat) + fractionOf r) / 10

theorem fractionOf_eq_div (ds : List Char) :
    fractionOf ds = (Nat.ofDigitChars 10 ds 0 : ℚ) / 10 ^ ds.length := by
  induction ds with
  | nil => simp [fractionOf]
  | cons c r ih =>
    have hvalue : Nat.ofDigitChars 10 (c :: r) 0 =
        10 ^ r.length * (c.toNat - '0'.toNat) + Nat.ofDigitChars 10 r 0 := by
      rw [Nat.ofDigitChars_cons, Nat.mul_zero, Nat.zero_add, Nat.ofDigitChars_eq_ofDigitChars_zero]
    rw [fractionOf, ih, hvalue, List.length_cons, pow_succ]
    push_cast
    field_simp

theorem fractionOf_append (a b : List Char) :
    fractionOf (a ++ b) = fractionOf a + fractionOf b / 10 ^ a.length := by
  induction a with
  | nil => simp [fractionOf]
  | cons c r ih =>
    rw [List.cons_append, fractionOf, fractionOf, ih, List.length_cons, pow_succ]
    field_simp
    ring

theorem fractionOf_zeros (n : Nat) : fractionOf (List.replicate n '0') = 0 := by
  induction n with
  | zero => rfl
  | succ n ih =>
    rw [List.replicate_succ, fractionOf, ih]
    simp

/-- Zeros at the end are worth nothing. -/
theorem fractionOf_append_zeros (ds : List Char) (n : Nat) :
    fractionOf (ds ++ List.replicate n '0') = fractionOf ds := by
  rw [fractionOf_append, fractionOf_zeros, zero_div, add_zero]

end Numeral

namespace Phout

open Numeral Text

/-! ## What is taken of them -/

theorem floor_fractionOf (ds : List Char) :
    ⌊fractionOf ds * 1000⌋₊ = Nat.ofDigitChars 10 ds 0 * 1000 / 10 ^ ds.length := by
  have hquotient : fractionOf ds * 1000 =
      ((Nat.ofDigitChars 10 ds 0 * 1000 : Nat) : ℚ) / ((10 ^ ds.length : Nat) : ℚ) := by
    rw [fractionOf_eq_div, div_mul_eq_mul_div]
    push_cast
    rfl
  rw [hquotient, Nat.floor_div_eq_div]

/-- Whole milliseconds of the fraction, rounded down. -/
theorem fractionMillis_eq_floor {ds : List Char} (h : Digits ds) :
    fractionMillis ds = ⌊fractionOf ds * 1000⌋₊ := by
  rw [fractionMillis_eq_div h, floor_fractionOf]

/-- Three digits are all that counts. -/
theorem fractionMillis_take (ds : List Char) : fractionMillis (ds.take 3) = fractionMillis ds := by
  have hshown : (ds.take 3 ++ ['0', '0', '0']).take 3 = (ds ++ ['0', '0', '0']).take 3 := by
    rw [List.take_append, List.take_append, List.take_take, List.length_take]
    congr 2
    omega
  rw [fractionMillis, fractionMillis, hshown]

/-! ## Anything else behind the point -/

/-- A text with anything but digits behind its point, blanks at the end apart, is refused, and the
refusal shows it. Where the text before the point is no integer either, a reason follows. -/
theorem parseTime_of_stray {before part : List Char} (h : ∃ c ∈ trimEnd part, c.isDigit = false) :
    ∃ reason, parseTime (before ++ '.' :: part) = .error (.parse
      ("Invalid send_ts '" ++ .ofList (trim (before ++ '.' :: part)) ++ "'" ++ reason)) := by
  obtain ⟨c, hmem, hc⟩ := h
  -- The reader cuts at the first point, which may stand before this one.
  obtain ⟨whole, rest, hcut, hsuffix⟩ : ∃ whole rest,
      cut? '.' (trim (before ++ '.' :: part)) = some (whole, rest) ∧ trimEnd part <:+ rest := by
    rw [trim_append_cons rfl]
    exact cut?_append_cons _ _
  have hstray : rest.all Char.isDigit = false :=
    List.all_eq_false.mpr ⟨c, hsuffix.subset hmem, by simp [hc]⟩
  unfold parseTime
  simp only [hcut]
  cases parseInt maxI64 whole with
  | error e =>
    have hquote : "'" ++ (": " ++ e.message) = "': " ++ e.message := by
      rw [← String.append_assoc]
      rfl
    refine ⟨": " ++ e.message, ?_⟩
    simp only [String.append_assoc, hquote]
  | ok secs =>
    refine ⟨"", ?_⟩
    simp [hstray]

/-- **Decimals of a time are a decimal fraction of its second.** For every second that can be
represented and any count of digits, also none, whatever the text that shows them: the time that is
read has that second and the whole milliseconds of the fraction, rounded down. The same is read where
zeros were added to the digits, and where those behind the third were left out. A text with anything
but digits behind a point, blanks at its end apart, is refused. -/
theorem time_reads_decimals :
    (∀ raw secs ds, TimeText raw secs ds →
      Timestamp.minSecs ≤ secs → secs ≤ Timestamp.maxSecs →
        parseTime raw = .ok ⟨secs, ⌊fractionOf ds * 1000⌋₊ * 1000000⟩ ∧
        (∀ longer n, TimeText longer secs (ds ++ List.replicate n '0') →
          parseTime longer = parseTime raw) ∧
        ∀ shorter, TimeText shorter secs (ds.take 3) → parseTime shorter = parseTime raw) ∧
    ∀ before part, (∃ c ∈ trimEnd part, c.isDigit = false) →
      ∃ reason, parseTime (before ++ '.' :: part) = .error (.parse
        ("Invalid send_ts '" ++ .ofList (trim (before ++ '.' :: part)) ++ "'" ++ reason)) := by
  refine ⟨fun raw secs ds h hlow hhigh => ?_, fun before part => parseTime_of_stray⟩
  have hread := parseTime_of_text h hlow hhigh
  refine ⟨?_, fun longer n hlonger => ?_, fun shorter hshorter => ?_⟩
  · rw [hread, fractionMillis_eq_floor h.digits]
  · rw [hread, parseTime_of_text hlonger hlow hhigh, fractionMillis_eq_floor h.digits,
      fractionMillis_eq_floor hlonger.digits, fractionOf_append_zeros]
  · rw [hread, parseTime_of_text hshorter hlow hhigh, fractionMillis_take]

/-- A text of a time before 1970, with a zero in front of its seconds and blanks around. -/
def looseTime (ds : List Char) : List Char :=
  ['\u3000'] ++ (['-', '0', '7'] ++ '.' :: ds) ++ ['\u00a0', '\n']

theorem timeText_looseTime {ds : List Char} (h : Digits ds) : TimeText (looseTime ds) (-7) ds := by
  have hdigits : Digits ['0', '7'] := by decide
  exact .pointed rfl (.minus hdigits (List.cons_ne_nil _ _)) h rfl

theorem time_reads_decimals_looseTime :
    TimeText (looseTime ['9', '9', '9', '5']) (-7) ['9', '9', '9', '5'] ∧
      Timestamp.minSecs ≤ -7 ∧ -7 ≤ Timestamp.maxSecs ∧
      parseTime (looseTime ['9', '9', '9', '5']) = .ok ⟨-7, 999000000⟩ ∧
      parseTime (looseTime ['9', '9', '9', '5', '0', '0']) = .ok ⟨-7, 999000000⟩ ∧
      parseTime (looseTime ['9', '9', '9']) = .ok ⟨-7, 999000000⟩ ∧
      ∃ reason, parseTime ['7', '.', '5', ' ', '\u0663', ' '] =
        .error (.parse ("Invalid send_ts '7.5 \u0663'" ++ reason)) := by
  have hdigits : Digits ['9', '9', '9', '5'] := by decide
  have hzeros : Digits ['9', '9', '9', '5', '0', '0'] := by decide
  have hthree : Digits ['9', '9', '9'] := by decide
  have htext := timeText_looseTime hdigits
  have hlow : Timestamp.minSecs ≤ -7 := by decide
  have hhigh : -7 ≤ Timestamp.maxSecs := by decide
  obtain ⟨hread, hlonger, hshorter⟩ := time_reads_decimals.1 _ _ _ htext hlow hhigh
  rw [floor_fractionOf] at hread
  refine ⟨htext, hlow, hhigh, hread, ?_, ?_, ?_⟩
  · exact (hlonger _ 2 (timeText_looseTime hzeros)).trans hread
  · exact (hshorter _ (timeText_looseTime hthree)).trans hread
  · exact time_reads_decimals.2 ['7'] ['5', ' ', '\u0663', ' '] ⟨'\u0663', by decide, by decide⟩

end Phout

end Volley
