import Volley.Numeral.Whole

/-!
# Doubles that hold an integer

A double may hold an integer exactly. Then cutting and rounding both give that integer, and what
becomes of it in a range is what becomes of the integer.

* `Holds`: a double and the integer that it is.
* `integerIn`, `integerIn_nearest`: taking a double for an integer of a range.
* `isNonnegative_iff`: the sign test of a double.
-/
namespace Volley.Numeral

namespace Binary

variable {b : Binary} {n : Nat}

theorem den_pos (b : Binary) : 0 < b.ratio.den := by
  rw [ratio, Ratio.ofBinary]
  split
  · exact Nat.one_pos
  · exact Nat.pow_pos (by decide)

theorem num_eq_zero_iff : b.ratio.num = 0 ↔ b.mantissa = 0 := by
  rw [ratio, Ratio.ofBinary]
  split
  · have hpow : 0 < Nat.pow 2 b.exponent.toNat := Nat.pow_pos (by decide)
    rw [Nat.mul_eq_zero]
    exact or_iff_left (Nat.ne_of_gt hpow)
  · rfl

/-- The magnitude is the natural number. -/
def Is (b : Binary) (n : Nat) : Prop := b.ratio.num = n * b.ratio.den

theorem Is.whole (h : b.Is n) : b.whole = n := by
  rw [Binary.whole, show b.ratio.num = n * b.ratio.den from h]
  exact Nat.mul_div_cancel n b.den_pos

theorem Is.nearest (h : b.Is n) : b.nearest = n := by
  have hpos := b.den_pos
  have hnum : 2 * b.ratio.num + b.ratio.den = b.ratio.den + n * (2 * b.ratio.den) := by
    rw [show b.ratio.num = n * b.ratio.den from h]
    ac_rfl
  rw [Binary.nearest, hnum, Nat.add_mul_div_right _ _ (by omega), Nat.div_eq_of_lt (by omega),
    Nat.zero_add]

theorem Is.mantissa_eq_zero_iff (h : b.Is n) : b.mantissa = 0 ↔ n = 0 := by
  have hpos := b.den_pos
  rw [← num_eq_zero_iff, show b.ratio.num = n * b.ratio.den from h, Nat.mul_eq_zero]
  omega

end Binary

/-- The double is the integer. -/
def Holds (x : Float) (i : Int) : Prop :=
  ∃ negative b n, classify x.toBits = .finite negative b ∧ b.Is n ∧ i = signed negative n

variable {x : Float} {i : Int} {low high : Int}

theorem Holds.integerIn {magnitude : Binary → Nat} (h : Holds x i)
    (hmagnitude : ∀ {b : Binary} {n : Nat}, b.Is n → magnitude b = n) :
    integerIn low high magnitude x = clamp low high i := by
  obtain ⟨negative, b, n, hclass, hb, rfl⟩ := h
  rw [Numeral.integerIn, hclass]
  dsimp only
  rw [hmagnitude hb]

theorem Holds.integerIn_nearest (h : Holds x i) :
    Numeral.integerIn low high Binary.nearest x = clamp low high i :=
  h.integerIn Binary.Is.nearest

theorem Holds.isNonnegative_iff (h : Holds x i) : isNonnegative x = true ↔ 0 ≤ i := by
  obtain ⟨negative, b, n, hclass, hb, rfl⟩ := h
  rw [isNonnegative, hclass]
  cases negative with
  | false => exact iff_of_true rfl (Int.natCast_nonneg n)
  | true =>
    have hzero : (b.mantissa == 0) = true ↔ n = 0 := by
      rw [beq_iff_eq, hb.mantissa_eq_zero_iff]
    have hsigned : 0 ≤ signed true n ↔ n = 0 := by
      show 0 ≤ -(n : Int) ↔ n = 0
      omega
    exact hzero.trans hsigned.symm

theorem clamp_of_mem (hlow : low ≤ i) (hhigh : i ≤ high) : clamp low high i = i := by
  rw [clamp, if_neg (by omega), if_neg (by omega)]

end Volley.Numeral
