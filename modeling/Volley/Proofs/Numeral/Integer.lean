import Mathlib.Algebra.Group.Nat.Defs
import Volley.Numeral.Integer

/-!
# Decimal integers are read back

`digitsUpTo` reads digits from the left and refuses as soon as their value exceeds the bound. The
value of the digits so far never shrinks, so the bound on the whole number is the only one that
counts (`digitsUpTo_of_digits`). From it follow the two readers on what the writers write:

* `parseNat_decimal`: a natural number up to the bound is read back.
* `parseInt_of_spells`: so is an integer, the lowest one included, with any sign and any zeros in
  front that its text may have.
* `ofDigitChars_zeroPadded`: zeros in front do not change the value.
* `parseNat_eq_zero_iff`: only zeros, with or without a plus sign, are read as zero.
-/
namespace Volley.Numeral

/-! ## Digits -/

/-- Nothing but digits. -/
def Digits (s : List Char) : Prop := ∀ c ∈ s, c.isDigit = true

instance (s : List Char) : Decidable (Digits s) :=
  decidable_of_iff (s.all Char.isDigit = true) List.all_eq_true

theorem digits_decimal (n : Nat) : Digits (decimal n) :=
  fun _ h => Nat.isDigit_of_mem_toDigits (by decide) (by decide) h

theorem decimal_ne_nil (n : Nat) : decimal n ≠ [] := Nat.toDigits_ne_nil

theorem ofDigitChars_decimal (n : Nat) : Nat.ofDigitChars 10 (decimal n) 0 = n :=
  Nat.ofDigitChars_ten_toDigits

theorem digits_zeroPadded (width n : Nat) : Digits (zeroPadded width n) := by
  intro c h
  rcases List.mem_append.mp h with h | h
  · rw [List.eq_of_mem_replicate h]
    rfl
  · exact digits_decimal n c h

theorem ofDigitChars_zeroPadded (width n : Nat) :
    Nat.ofDigitChars 10 (zeroPadded width n) 0 = n := by
  unfold zeroPadded
  rw [Nat.ofDigitChars_append, Nat.ofDigitChars_replicate_zero, Nat.mul_zero, ofDigitChars_decimal]

/-- A number that fits is as long as the width. -/
theorem length_zeroPadded {width n : Nat} (hw : 0 < width) (h : n < 10 ^ width) :
    (zeroPadded width n).length = width := by
  have := (Nat.length_toDigits_le_iff (by decide) hw).mpr h
  simp only [zeroPadded, decimal, List.length_append, List.length_replicate]
  omega

/-! ## Reading digits -/

theorem digit?_of_isDigit {c : Char} (h : c.isDigit = true) :
    digit? c = some (c.toNat - '0'.toNat) := by
  rw [digit?, if_pos h]

theorem digit_le {c : Char} (h : c.isDigit = true) : c.toNat - '0'.toNat ≤ 9 := by
  have hc : 48 ≤ c.toNat ∧ c.toNat ≤ 57 := Char.isDigit_iff_toNat.mp h
  have h0 : '0'.toNat = 48 := rfl
  omega

/-- Digits behind a number do not take it to the next one. -/
theorem ofDigitChars_lt {ds : List Char} (hd : Digits ds) (acc : Nat) :
    Nat.ofDigitChars 10 ds acc < (acc + 1) * 10 ^ ds.length := by
  induction ds generalizing acc with
  | nil => simp
  | cons c r ih =>
    have hc := digit_le (hd c List.mem_cons_self)
    rw [Nat.ofDigitChars_cons, List.length_cons, Nat.pow_succ, Nat.mul_comm (10 ^ r.length),
      ← Nat.mul_assoc]
    calc Nat.ofDigitChars 10 r (10 * acc + (c.toNat - '0'.toNat))
        < (10 * acc + (c.toNat - '0'.toNat) + 1) * 10 ^ r.length :=
          ih (fun d h => hd d (List.mem_cons_of_mem _ h)) _
      _ ≤ (acc + 1) * 10 * 10 ^ r.length := Nat.mul_le_mul_right _ (by omega)

/-- A number cut behind a digit. -/
theorem ofDigitChars_take_drop (k : Nat) (ds : List Char) :
    Nat.ofDigitChars 10 ds 0 =
      10 ^ (ds.drop k).length * Nat.ofDigitChars 10 (ds.take k) 0 +
        Nat.ofDigitChars 10 (ds.drop k) 0 := by
  calc Nat.ofDigitChars 10 ds 0
      = Nat.ofDigitChars 10 (ds.take k ++ ds.drop k) 0 := by rw [List.take_append_drop]
    _ = Nat.ofDigitChars 10 (ds.drop k) (Nat.ofDigitChars 10 (ds.take k) 0) :=
        Nat.ofDigitChars_append _
    _ = _ := Nat.ofDigitChars_eq_ofDigitChars_zero

/-- More digits do not make a number smaller. -/
theorem le_ofDigitChars (ds : List Char) (acc : Nat) : acc ≤ Nat.ofDigitChars 10 ds acc := by
  rw [Nat.ofDigitChars_eq_ofDigitChars_zero]
  have := Nat.mul_le_mul_right acc (Nat.pow_pos (n := ds.length) (show 0 < 10 by decide))
  omega

theorem digitsUpTo_of_digits {max : Nat} (surplus : IntegerFault) {ds : List Char}
    (hd : Digits ds) {acc : Nat} (hle : Nat.ofDigitChars 10 ds acc ≤ max) :
    digitsUpTo max surplus acc ds = .ok (Nat.ofDigitChars 10 ds acc) := by
  induction ds generalizing acc with
  | nil => rfl
  | cons c r ih =>
    rw [Nat.ofDigitChars_cons, Nat.mul_comm] at hle ⊢
    have hnext := Nat.le_trans (le_ofDigitChars r (acc * 10 + (c.toNat - '0'.toNat))) hle
    rw [digitsUpTo, digit?_of_isDigit (hd c List.mem_cons_self)]
    simp only [if_neg (Nat.not_lt.mpr hnext)]
    exact ih (fun d h => hd d (List.mem_cons_of_mem _ h)) hle

theorem digit?_eq_zero_iff {c : Char} : digit? c = some 0 ↔ c = '0' := by
  constructor
  · intro h
    unfold digit? at h
    split at h
    · rename_i hdigit
      have hbounds : 48 ≤ c.toNat ∧ c.toNat ≤ 57 := Char.isDigit_iff_toNat.mp hdigit
      have hvalue : c.toNat - 48 = 0 := Option.some.inj h
      have hcode : c.toNat = '0'.toNat := by
        show c.toNat = 48
        omega
      exact Char.toNat_inj.mp hcode
    · cases h
  · rintro rfl
    rfl

/-- Reading on does not make a number smaller. -/
theorem le_of_digitsUpTo {max : Nat} {surplus : IntegerFault} {s : List Char} {acc n : Nat}
    (h : digitsUpTo max surplus acc s = .ok n) : acc ≤ n := by
  induction s generalizing acc with
  | nil =>
    cases h
    exact Nat.le_refl _
  | cons c r ih =>
    unfold digitsUpTo at h
    split at h
    · cases h
    · dsimp only at h
      split at h
      · cases h
      · have hrest := ih h
        omega

theorem digitsUpTo_eq_zero_iff {max : Nat} {surplus : IntegerFault} {s : List Char} :
    digitsUpTo max surplus 0 s = .ok 0 ↔ s = List.replicate s.length '0' := by
  induction s with
  | nil => exact iff_of_true rfl rfl
  | cons c r ih =>
    rw [List.length_cons, List.replicate_succ, List.cons.injEq, ← ih, ← digit?_eq_zero_iff,
      digitsUpTo]
    cases hd : digit? c with
    | none => simp
    | some d =>
      dsimp only
      cases d with
      | zero => simp
      | succ d =>
        refine iff_of_false (fun h => ?_) (by simp)
        split at h
        · cases h
        · have hle := le_of_digitsUpTo h
          omega

/-! ## Signs -/

theorem parseNat_of_digits {max : Nat} {s : List Char} (hd : Digits s) (hne : s ≠ []) :
    parseNat max s = digitsUpTo max .tooLarge 0 s := by
  cases s with
  | nil => exact absurd rfl hne
  | cons c r =>
    have hc := hd c List.mem_cons_self
    have hplus : c ≠ '+' := by
      rintro rfl
      exact absurd hc (by decide)
    unfold parseNat
    split <;> simp_all

theorem parseInt_of_digits {max : Nat} {s : List Char} (hd : Digits s) (hne : s ≠ []) :
    parseInt max s = (digitsUpTo max .tooLarge 0 s).map fun n => (n : Int) := by
  cases s with
  | nil => exact absurd rfl hne
  | cons c r =>
    have hc := hd c List.mem_cons_self
    have hplus : c ≠ '+' := by
      rintro rfl
      exact absurd hc (by decide)
    have hminus : c ≠ '-' := by
      rintro rfl
      exact absurd hc (by decide)
    unfold parseInt
    split <;> simp_all

theorem parseInt_minus {max : Nat} {s : List Char} (hne : s ≠ []) :
    parseInt max ('-' :: s) = (digitsUpTo (max + 1) .tooSmall 0 s).map fun n => -(n : Int) := by
  cases s with
  | nil => exact absurd rfl hne
  | cons c r => rfl

theorem parseInt_plus {max : Nat} {s : List Char} (hne : s ≠ []) :
    parseInt max ('+' :: s) = (digitsUpTo max .tooLarge 0 s).map fun n => (n : Int) := by
  cases s with
  | nil => exact absurd rfl hne
  | cons c r => rfl

/-- The texts of an integer: digits, with a sign in front or without one. -/
inductive Spells : List Char → Int → Prop
  | bare {ds : List Char} (hd : Digits ds) (hne : ds ≠ []) : Spells ds (Nat.ofDigitChars 10 ds 0)
  | plus {ds : List Char} (hd : Digits ds) (hne : ds ≠ []) :
      Spells ('+' :: ds) (Nat.ofDigitChars 10 ds 0)
  | minus {ds : List Char} (hd : Digits ds) (hne : ds ≠ []) :
      Spells ('-' :: ds) (-(Nat.ofDigitChars 10 ds 0 : Int))

theorem Spells.ne_nil {s : List Char} {i : Int} (h : Spells s i) : s ≠ [] := by
  cases h with
  | bare _ hne => exact hne
  | plus => exact List.cons_ne_nil _ _
  | minus => exact List.cons_ne_nil _ _

theorem Spells.mem {s : List Char} {i : Int} (h : Spells s i) {c : Char} (hc : c ∈ s) :
    c = '+' ∨ c = '-' ∨ c.isDigit = true := by
  cases h with
  | bare hd => exact .inr (.inr (hd c hc))
  | plus hd =>
    rcases List.mem_cons.mp hc with hc | hc
    · exact .inl hc
    · exact .inr (.inr (hd c hc))
  | minus hd =>
    rcases List.mem_cons.mp hc with hc | hc
    · exact .inr (.inl hc)
    · exact .inr (.inr (hd c hc))

theorem spells_signedDecimal (i : Int) : Spells (signedDecimal i) i := by
  have hd := digits_decimal i.natAbs
  have hne := decimal_ne_nil i.natAbs
  have hn := ofDigitChars_decimal i.natAbs
  unfold signedDecimal
  split
  · have hi : -(Nat.ofDigitChars 10 (decimal i.natAbs) 0 : Int) = i := by omega
    simpa only [hi] using Spells.minus hd hne
  · have hi : (Nat.ofDigitChars 10 (decimal i.natAbs) 0 : Int) = i := by omega
    simpa only [hi] using Spells.bare hd hne

/-- However it is spelled, an integer in range is read. -/
theorem parseInt_of_spells {max : Nat} {s : List Char} {i : Int} (h : Spells s i)
    (hlow : -(max + 1 : Int) ≤ i) (hhigh : i ≤ max) : parseInt max s = .ok i := by
  cases h with
  | bare hd hne =>
    rw [parseInt_of_digits hd hne, digitsUpTo_of_digits .tooLarge hd (by omega)]
    rfl
  | plus hd hne =>
    rw [parseInt_plus hne, digitsUpTo_of_digits .tooLarge hd (by omega)]
    rfl
  | minus hd hne =>
    rw [parseInt_minus hne, digitsUpTo_of_digits .tooSmall hd (by omega)]
    rfl

/-- Only zeros are read as zero, with or without a plus sign. -/
theorem parseNat_eq_zero_iff {max : Nat} {s : List Char} : parseNat max s = .ok 0 ↔
    ∃ n, s = List.replicate (n + 1) '0' ∨ s = '+' :: List.replicate (n + 1) '0' := by
  -- What is not empty is all zeros exactly if it is so many zeros.
  have hzeros : ∀ r : List Char, r ≠ [] →
      (digitsUpTo max .tooLarge 0 r = .ok 0 ↔ ∃ n, r = List.replicate (n + 1) '0') := by
    intro r hne
    rw [digitsUpTo_eq_zero_iff]
    refine ⟨fun h => ⟨r.length - 1, ?_⟩, ?_⟩
    · have hlength : r.length - 1 + 1 = r.length :=
        Nat.sub_add_cancel (List.length_pos_iff.mpr hne)
      rwa [hlength]
    · rintro ⟨n, rfl⟩
      rw [List.length_replicate]
  fun_cases parseNat max s with
  | case1 => simp [List.replicate_succ]
  | case2 => simp [List.replicate_succ]
  | case3 r hne =>
    rw [hzeros r hne]
    simp [List.replicate_succ]
  | case4 s hempty hplus hsign =>
    rw [hzeros s hempty]
    refine exists_congr fun n => (or_iff_left ?_).symm
    exact fun h => hsign _ h

/-- A natural number up to the bound is read back. -/
theorem parseNat_decimal {max n : Nat} (h : n ≤ max) : parseNat max (decimal n) = .ok n := by
  have hn := ofDigitChars_decimal n
  rw [parseNat_of_digits (digits_decimal n) (decimal_ne_nil n),
    digitsUpTo_of_digits .tooLarge (digits_decimal n) (by rw [hn]; exact h), hn]

/-- An integer in range is read back. -/
theorem parseInt_signedDecimal {max : Nat} {i : Int} (hlow : -(max + 1 : Int) ≤ i)
    (hhigh : i ≤ max) : parseInt max (signedDecimal i) = .ok i :=
  parseInt_of_spells (spells_signedDecimal i) hlow hhigh

theorem mem_signedDecimal {i : Int} {c : Char} (h : c ∈ signedDecimal i) :
    c = '-' ∨ c.isDigit = true := by
  unfold signedDecimal at h
  split at h
  · rcases List.mem_cons.mp h with h | h
    · exact .inl h
    · exact .inr (digits_decimal _ c h)
  · exact .inr (digits_decimal _ c h)

theorem signedDecimal_ne_nil (i : Int) : signedDecimal i ≠ [] := by
  unfold signedDecimal
  split
  · exact List.cons_ne_nil _ _
  · exact decimal_ne_nil _

end Volley.Numeral
