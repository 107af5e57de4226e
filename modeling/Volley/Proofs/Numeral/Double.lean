import Mathlib.Algebra.Order.Ring.Int
import Volley.Proofs.Numeral.Whole

/-!
# Natural numbers as doubles

A natural number below 2^53 is a double exactly: it is brought to 53 digits, which takes no
rounding, and packed into the bits from which it is read again.

* `Significand`: magnitudes of 53 binary digits.
* `roundWithAccuracy_exact`: digits behind the point that are zero are dropped without a trace.
* `unpack_pack`, `classify_pack`: a significand that was packed into bits.
* `toModel_ofNat`: the bits of a natural number.
* `holds_ofNat`: the double is the number.
-/
namespace Volley.Numeral

open Float.Model Float.Model.UnpackedFloat
open Float.Model.Format (binary64)

/-- A magnitude of 53 binary digits. -/
def Significand (m : Nat) : Prop := 2 ^ 52 ≤ m ∧ m < 2 ^ 53

variable {m k n : Nat} {e : Int}

theorem Significand.pos (h : Significand m) : 0 < m := by
  have hlow := h.1
  omega

theorem Significand.log2_mul (h : Significand m) (k : Nat) : (m * 2 ^ k).log2 = 52 + k := by
  have hpow : 0 < 2 ^ k := Nat.two_pow_pos k
  have hne : m * 2 ^ k ≠ 0 := Nat.ne_of_gt (Nat.mul_pos h.pos hpow)
  rw [Nat.log2_eq_iff hne, Nat.pow_succ, Nat.pow_add]
  refine ⟨Nat.mul_le_mul_right _ h.1, ?_⟩
  calc m * 2 ^ k < 2 ^ 53 * 2 ^ k := Nat.mul_lt_mul_of_pos_right h.2 hpow
    _ = 2 ^ 52 * 2 ^ k * 2 := by omega

/-! ## Shifts and rounding -/

/-- Binary digits that are zero are shifted out without a trace. -/
theorem shiftRight_exact (m k : Nat) :
    ExtendedMantissa.mk (m * 2 ^ k) false false >>> k = ⟨m, false, false⟩ := by
  show Nat.repeat ExtendedMantissa.shiftRightOne k ⟨m * 2 ^ k, false, false⟩ = _
  induction k generalizing m with
  | zero => rw [Nat.pow_zero, Nat.mul_one, Nat.repeat]
  | succ k ih =>
    have htwice : m * 2 ^ (k + 1) = m * 2 * 2 ^ k := by
      rw [Nat.pow_succ, Nat.mul_comm (2 ^ k) 2, Nat.mul_assoc]
    rw [htwice, Nat.repeat, ih]
    simp [ExtendedMantissa.shiftRightOne]

theorem targetExponent_mul (h : Significand m) (k : Nat) (he : -1074 ≤ e + k) :
    binary64.targetExponent (totalExponent (m * 2 ^ k) e) = e + k := by
  rw [Format.targetExponent, totalExponent, h.log2_mul]
  have hmin : binary64.minExponent = -1074 := rfl
  have hbits : binary64.mantissaBits = 53 := rfl
  rw [hmin, hbits]
  omega

theorem shiftToTargetExponent_exact (h : Significand m) (k : Nat) (he : -1074 ≤ e + k) :
    shiftToTargetExponent binary64 (m * 2 ^ k) e .exact = (⟨m, false, false⟩, e + k) := by
  have hshift : (e + k - e).toNat = k := by omega
  rw [shiftToTargetExponent, targetExponent_mul h k he, shiftToExponent, hshift]
  exact congrArg (·, _) (shiftRight_exact m k)

theorem roundWithAccuracy_exact (h : Significand m) (k : Nat) (he : -1074 ≤ e + k) :
    roundWithAccuracy binary64 .positive (m * 2 ^ k) e .exact =
      .finite .positive m (e + k) h.pos := by
  have hagain : shiftToTargetExponent binary64 m (e + k) .exact =
      (⟨m, false, false⟩, e + k) := by
    have hzero := shiftToTargetExponent_exact (e := e + k) h 0 (by omega)
    simpa using hzero
  have hrounded : (ExtendedMantissa.mk m false false).roundedMantissa = m := rfl
  rw [roundWithAccuracy, shiftToTargetExponent_exact h k he]
  dsimp only
  rw [hrounded, hagain]
  exact dif_neg (Nat.ne_of_gt h.pos)

/-! ## Packed doubles -/

theorem toNat_packComponents (exponent : BitVec 11) (fraction : BitVec 52) :
    (packComponents binary64 .positive exponent fraction).toNat =
      exponent.toNat * 2 ^ 52 + fraction.toNat := by
  show ((0#1 ++ exponent) ++ fraction).toNat = _
  rw [BitVec.toNat_append, ← Nat.shiftLeft_add_eq_or_of_lt fraction.isLt, Nat.shiftLeft_eq,
    BitVec.toNat_append]
  simp

/-- The bits of a significand at an exponent. -/
theorem toNat_pack (h : Significand m) {biased : Nat} (hbiased : biased < 2047) :
    (UnpackedFloat.pack binary64 (.finite .positive m (biased - 1075) h.pos)).toNat =
      biased * 2 ^ 52 + (m - 2 ^ 52) := by
  have hexponent : ((biased : Int) - 1075 + (1023 : Nat) + (52 : Nat)).toNat = biased := by omega
  have hdigits : m.log2 + 1 = 53 := by
    have hlog := h.log2_mul 0
    rw [Nat.pow_zero, Nat.mul_one] at hlog
    omega
  have hpack : UnpackedFloat.pack binary64 (.finite .positive m (biased - 1075) h.pos) =
      packComponents binary64 .positive (BitVec.ofNat 11 biased) (BitVec.ofNat 52 m) := by
    have hcases : UnpackedFloat.pack binary64 (.finite .positive m (biased - 1075) h.pos) =
        let exponent := ((biased : Int) - 1075 + (1023 : Nat) + (52 : Nat)).toNat
        if 2 ^ 11 ≤ exponent + 1 then packedInfinity binary64 .positive
        else if m.log2 + 1 = 53 then
          packComponents binary64 .positive (.ofNat 11 exponent) (.ofNat 52 m)
        else packComponents binary64 .positive 0 (.ofNat 52 m) := rfl
    rw [hcases, hexponent]
    dsimp only
    rw [if_neg (by omega), if_pos hdigits]
  have hfraction : m % 2 ^ 52 = m - 2 ^ 52 := by
    have hlow := h.1
    have hhigh := h.2
    omega
  rw [hpack, toNat_packComponents, BitVec.toNat_ofNat, BitVec.toNat_ofNat, hfraction,
    Nat.mod_eq_of_lt (by omega)]

/-- Bits that are packed are read as they were. -/
theorem classify_pack (h : Significand m) {biased : Nat} (hlow : 0 < biased)
    (hhigh : biased < 2047) {bits : UInt64} (hbits : bits.toNat = biased * 2 ^ 52 + (m - 2 ^ 52)) :
    ∃ narrow, classify bits = .finite false ⟨m, biased - 1075, narrow⟩ := by
  have hm := h.1
  have hm' := h.2
  have hsign : (bits.toNat / 0x8000000000000000 == 1) = false := by
    rw [hbits]
    exact beq_false_of_ne (by omega)
  have hexponent : bits.toNat / 0x10000000000000 % 0x800 = biased := by
    rw [hbits]
    omega
  have hfraction : 0x10000000000000 + bits.toNat % 0x10000000000000 = m := by
    rw [hbits]
    omega
  have hinfinite : (biased == 2047) = false := beq_false_of_ne (by omega)
  have hsmall : (biased == 0) = false := beq_false_of_ne (by omega)
  simp only [classify, hsign, hexponent, hfraction, hinfinite, hsmall, Bool.false_eq_true,
    if_false]
  exact ⟨_, rfl⟩

theorem finite_congr {sign : Sign} {m m' : Nat} {e e' : Int} {h : 0 < m} {h' : 0 < m'}
    (hm : m = m') (he : e = e') : UnpackedFloat.finite sign m e h = .finite sign m' e' h' := by
  subst hm he
  rfl

/-- The three parts of packed bits. -/
theorem toNat_unpacked (h : Significand m) {biased : Nat} (hhigh : biased < 2047)
    {bits : BitVec binary64.numBits} (hbits : bits.toNat = biased * 2 ^ 52 + (m - 2 ^ 52)) :
    (@unpackMantissa binary64 bits).toNat = m - 2 ^ 52 ∧
      (@unpackExponent binary64 bits).toNat = biased ∧
      (@unpackSign binary64 bits).toNat = 0 := by
  have hm := h.1
  have hm' := h.2
  refine ⟨?_, ?_, ?_⟩
  · show (BitVec.cast _ (BitVec.extractLsb 51 0 bits)).toNat = _
    rw [BitVec.toNat_cast, BitVec.extractLsb_toNat, hbits, Nat.shiftRight_zero]
    omega
  · show (BitVec.cast _ (BitVec.extractLsb 62 52 bits)).toNat = _
    rw [BitVec.toNat_cast, BitVec.extractLsb_toNat, hbits, Nat.shiftRight_eq_div_pow]
    omega
  · show (BitVec.cast _ (BitVec.extractLsb 63 63 bits)).toNat = _
    rw [BitVec.toNat_cast, BitVec.extractLsb_toNat, hbits, Nat.shiftRight_eq_div_pow]
    omega

/-- What was packed is unpacked again. -/
theorem unpack_pack (h : Significand m) {biased : Nat} (hlow : 0 < biased)
    (hhigh : biased < 2047) : UnpackedFloat.unpack binary64
      (UnpackedFloat.pack binary64 (.finite .positive m (biased - 1075) h.pos)) =
        .finite .positive m (biased - 1075) h.pos := by
  obtain ⟨hfraction, hexponent, hsign⟩ := toNat_unpacked h hhigh (toNat_pack h hhigh)
  generalize UnpackedFloat.pack binary64 _ = bits at hfraction hexponent hsign
  have hneg : @unpackExponent binary64 bits ≠ -1#11 := by
    intro hall
    have hmax : biased = 2047 := hexponent.symm.trans (congrArg BitVec.toNat hall)
    omega
  have hzero : @unpackExponent binary64 bits ≠ 0#11 := by
    intro hnone
    have hmin : biased = 0 := hexponent.symm.trans (congrArg BitVec.toNat hnone)
    omega
  have hpositive : Sign.ofBitVec (@unpackSign binary64 bits) = .positive :=
    if_pos (BitVec.eq_of_toNat_eq hsign)
  have hwhole : (1#1 ++ @unpackMantissa binary64 bits).toNat = m := by
    have hm := h.1
    rw [BitVec.toNat_append, ← Nat.shiftLeft_add_eq_or_of_lt (BitVec.isLt _), hfraction]
    show 1 <<< 52 + (m - 2 ^ 52) = m
    omega
  have hnormal : UnpackedFloat.unpack binary64 bits =
      .finite (Sign.ofBitVec (@unpackSign binary64 bits))
        (1#1 ++ @unpackMantissa binary64 bits).toNat
        ((@unpackExponent binary64 bits).toNat - ((1023 : Nat) + (52 : Nat))) (hwhole ▸ h.pos) :=
    (if_neg hneg).trans (if_neg hzero)
  rw [hnormal, hpositive]
  refine finite_congr hwhole ?_
  rw [hexponent]
  rfl

/-! ## Natural numbers -/

/-- The significand of a natural number and the power of two that it was multiplied by. -/
theorem exists_significand (hpos : 0 < n) (h : n < 2 ^ 53) :
    ∃ k, n.log2 + k = 52 ∧ Significand (n * 2 ^ k) := by
  have hne : n ≠ 0 := Nat.ne_of_gt hpos
  have hlog : n.log2 < 53 := (Nat.log2_lt hne).mpr h
  obtain ⟨k, hk⟩ : ∃ k, n.log2 + k = 52 := ⟨52 - n.log2, by omega⟩
  have hpow : 0 < 2 ^ k := Nat.two_pow_pos k
  refine ⟨k, hk, ?_, ?_⟩
  · rw [← hk, Nat.pow_add]
    exact Nat.mul_le_mul_right _ (Nat.log2_self_le hne)
  · have hlast : 2 ^ 53 = 2 ^ (n.log2 + 1) * 2 ^ k := by
      rw [← Nat.pow_add]
      congr 1
      omega
    rw [hlast]
    exact Nat.mul_lt_mul_of_pos_right Nat.lt_log2_self hpow

/-- Bringing a natural number to 53 digits does not change it. -/
theorem ofNat_unpacked (hpos : 0 < n) {k : Nat} (hk : n.log2 + k = 52)
    (hm : Significand (n * 2 ^ k)) :
    UnpackedFloat.ofNat binary64 n = .finite .positive (n * 2 ^ k) (-k) hm.pos := by
  have hround : UnpackedFloat.ofNat binary64 n = UnpackedFloat.round binary64 .positive n 0 := by
    have hnormal : UnpackedFloat.ofNat binary64 n = match compare (n : Int) 0 with
      | .lt => UnpackedFloat.round binary64 .negative (-(n : Int)).toNat 0
      | .eq => .zero .positive
      | .gt => UnpackedFloat.round binary64 .positive (n : Int).toNat 0 := rfl
    have hcompare : compare (n : Int) 0 = .gt := by
      rw [Int.compare_eq_gt]
      omega
    rw [hnormal, hcompare, Int.toNat_natCast]
  have htarget : binary64.targetExponent (totalExponent n 0) = -k := by
    rw [Format.targetExponent, totalExponent]
    have hmin : binary64.minExponent = -1074 := rfl
    have hbits : binary64.mantissaBits = 53 := rfl
    rw [hmin, hbits]
    omega
  have hdecrease : decreaseExponent n 0 (-k) = (n * 2 ^ k, -(k : Int)) := by
    have hamount : (0 - -(k : Int)).toNat = k := by omega
    rw [decreaseExponent, hamount, Nat.shiftLeft_eq, Int.zero_sub]
  have hexact := roundWithAccuracy_exact (e := -(k : Int)) hm 0 (by omega)
  rw [Nat.pow_zero, Nat.mul_one] at hexact
  rw [hround, UnpackedFloat.round, htarget, hdecrease]
  exact hexact.trans (finite_congr rfl (Int.add_zero _))

/-- The number is multiplied by one on its way to a double, and that does not change it. -/
theorem toModel_ofNat (hpos : 0 < n) (h : n < 2 ^ 53) {k : Nat} (hk : n.log2 + k = 52)
    (hm : Significand (n * 2 ^ k)) :
    (Float.ofNat n).toModel = Float.Model.pack (.finite .positive (n * 2 ^ k) (-k) hm.pos) := by
  have hfast : (Float.ofNat n).toModel =
      Float.Model.mul (Float.Model.ofUInt64 (UInt64.ofNat n))
        (Float.ofBits 0x3FF0000000000000).toModel := by
    show (Float.ofScientific n false 0).toModel = _
    rw [Float.ofScientific, dif_pos ⟨h, by decide⟩]
    rfl
  have hnumber : (Float.Model.ofUInt64 (UInt64.ofNat n)).unpack =
      .finite .positive (n * 2 ^ k) (-k) hm.pos := by
    have hword : (UInt64.ofNat n).toNat = n :=
      UInt64.toNat_ofNat_of_lt' (Nat.lt_trans h (by decide))
    have hpack : Float.Model.ofUInt64 (UInt64.ofNat n) =
        Float.Model.pack (UnpackedFloat.ofNat binary64 (UInt64.ofNat n).toNat) := rfl
    have hexponent : -(k : Int) = ((1075 - k : Nat) : Int) - 1075 := by omega
    rw [hpack, hword, ofNat_unpacked hpos hk hm, hexponent]
    exact unpack_pack hm (by omega) (by omega)
  have hone : (Float.ofBits 0x3FF0000000000000).toModel.unpack =
      .finite .positive (2 ^ 52) (-52) (by decide) := rfl
  have hexact := roundWithAccuracy_exact (e := -(k : Int) + -52) hm 52 (by omega)
  rw [hfast, Float.Model.mul, hnumber, hone]
  have hproduct : UnpackedFloat.mul binary64 (.finite .positive (n * 2 ^ k) (-k) hm.pos)
      (.finite .positive (2 ^ 52) (-52) (by decide)) =
        roundWithAccuracy binary64 .positive (n * 2 ^ k * 2 ^ 52) (-(k : Int) + -52) .exact := rfl
  rw [hproduct, hexact]
  exact congrArg Float.Model.pack (finite_congr rfl (by omega))

/-- What was multiplied by a power of two is divided by it again. -/
theorem is_significand (n k : Nat) (narrow : Bool) : Binary.Is ⟨n * 2 ^ k, -k, narrow⟩ n := by
  by_cases hzero : k = 0
  · subst hzero
    simp [Binary.Is, Binary.ratio, Ratio.ofBinary]
  · have hneg : ¬0 ≤ -(k : Int) := by omega
    have hden : (- -(k : Int)).toNat = k := by omega
    rw [Binary.Is, Binary.ratio, Ratio.ofBinary, if_neg hneg, hden]
    rfl

/-- **A natural number below 2^53 is a double exactly.** -/
theorem holds_ofNat (h : n < 2 ^ 53) : Holds (Float.ofNat n) n := by
  by_cases hzero : n = 0
  · subst hzero
    have his : Binary.Is ⟨0, -1074, false⟩ 0 := by
      rw [Binary.Is, Nat.zero_mul]
      exact Binary.num_eq_zero_iff.mpr rfl
    exact ⟨false, _, 0, by decide, his, rfl⟩
  · have hpos : 0 < n := Nat.pos_of_ne_zero hzero
    obtain ⟨k, hk, hm⟩ := exists_significand hpos h
    have hbits : (Float.ofNat n).toBits.toNat = (1075 - k) * 2 ^ 52 + (n * 2 ^ k - 2 ^ 52) := by
      have hexponent : -(k : Int) = ((1075 - k : Nat) : Int) - 1075 := by omega
      have hmodel := toModel_ofNat hpos h hk hm
      show (Float.ofNat n).toModel.toBits.toNat = _
      rw [hmodel, hexponent]
      exact toNat_pack hm (by omega)
    obtain ⟨narrow, hclass⟩ := classify_pack hm (by omega) (by omega) hbits
    have hexponent : ((1075 - k : Nat) : Int) - 1075 = -k := by omega
    rw [hexponent] at hclass
    exact ⟨false, _, n, hclass, is_significand n k narrow, rfl⟩

end Volley.Numeral
