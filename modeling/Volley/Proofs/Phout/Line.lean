import Volley.Phout.Writer
import Volley.Proofs.Numeral.Integer
import Volley.Proofs.Text.Blank
import Volley.Proofs.Text.Lines
import Volley.Proofs.Text.Utf8

/-!
# Phout lines are read back

What `display` writes holds twelve columns, of which only the tag may hold blanks, and none holds a
tab or a line end. So the tabs between the columns are the only ones (`fields_display`), and each
column is read back by the reader of its kind.

* `fractionMillis_eq_div`: digits behind a point are read as a decimal fraction.
* `parseTime_of_text`: what is read of all the texts of a time.
* `parseTime_renderTime`: a time comes back cut to milliseconds, also one before 1970; within a leap
  second the milliseconds have four digits, of which three come back.
* `parse_display_append`: a line comes back as `recorded`, whatever line ends follow it.
* `parseAll_render`: so do all lines of a text, and none is malformed.
-/
namespace Volley.Phout

open Numeral Text

/-! ## Columns -/

theorem solid_of_digits {s : List Char} (h : Digits s) : Solid s :=
  fun c hc => isBlank_of_isDigit (h c hc)

theorem solid_decimal (n : Nat) : Solid (decimal n) := solid_of_digits (digits_decimal n)

theorem solid_signedDecimal (i : Int) : Solid (signedDecimal i) := by
  intro c h
  rcases mem_signedDecimal h with rfl | hc
  · rfl
  · exact isBlank_of_isDigit hc

theorem solid_renderTime (t : Timestamp) : Solid (renderTime t) :=
  (solid_signedDecimal t.secs).append (.cons rfl (solid_of_digits (digits_zeroPadded 3 t.millis)))

/-- Nothing that would break the layout. -/
def Unbroken (s : List Char) : Prop := ∀ c ∈ s, c ≠ '\t' ∧ c ≠ '\n' ∧ c ≠ '\r'

theorem unbroken_of_solid {s : List Char} (h : Solid s) : Unbroken s := by
  intro c hc
  refine ⟨?_, ?_, ?_⟩
  all_goals
    rintro rfl
    exact h.not_mem rfl hc

theorem unbroken_plainTag (tag : List Char) : Unbroken (plainTag tag) := by
  intro c h
  obtain ⟨d, -, rfl⟩ := List.mem_map.mp h
  unfold plainChar
  split
  · decide
  · rename_i hd
    simp only [Bool.or_eq_true, beq_iff_eq, not_or] at hd
    exact ⟨hd.1.1, hd.1.2, hd.2⟩

/-- Every column but the tag holds no blanks. -/
theorem solid_of_mem_columns {m : Measurement} {col : List Char} (h : col ∈ columns m) :
    col = plainTag m.tag.toList ∨ Solid col := by
  simp only [columns, List.mem_cons, List.not_mem_nil, or_false] at h
  rcases h with rfl | rfl | rfl | rfl | rfl | rfl | rfl | rfl | rfl | rfl | rfl | rfl <;>
    simp [solid_renderTime, solid_decimal, solid_signedDecimal]

theorem unbroken_columns {m : Measurement} {col : List Char} (h : col ∈ columns m) :
    Unbroken col := by
  rcases solid_of_mem_columns h with rfl | hs
  · exact unbroken_plainTag _
  · exact unbroken_of_solid hs

/-! ## Tabs -/

theorem mem_joinTabs {cols : List (List Char)} {c : Char} (h : c ∈ joinTabs cols) :
    c = '\t' ∨ ∃ col ∈ cols, c ∈ col := by
  fun_induction joinTabs cols with
  | case1 => cases h
  | case2 col => exact .inr ⟨col, List.mem_cons_self, h⟩
  | case3 col r hr ih =>
    rcases List.mem_append.mp h with h | h
    · exact .inr ⟨col, List.mem_cons_self, h⟩
    · rcases List.mem_cons.mp h with h | h
      · exact .inl h
      · rcases ih h with h | ⟨col', hcol, h⟩
        · exact .inl h
        · exact .inr ⟨col', List.mem_cons_of_mem _ hcol, h⟩

theorem fields_joinTabs {cols : List (List Char)} (hne : cols ≠ [])
    (h : ∀ col ∈ cols, '\t' ∉ col) : fields '\t' (joinTabs cols) = cols := by
  fun_induction joinTabs cols with
  | case1 => exact absurd rfl hne
  | case2 col => exact fields_of_not_mem (h col List.mem_cons_self)
  | case3 col r hr ih =>
    rw [fields_append (h col List.mem_cons_self),
      ih hr fun col' h' => h col' (List.mem_cons_of_mem _ h')]

theorem joinTabs_concat (cols : List (List Char)) (col : List Char) :
    ∃ front, joinTabs (cols ++ [col]) = front ++ col := by
  induction cols with
  | nil => exact ⟨[], rfl⟩
  | cons c r ih =>
    obtain ⟨front, hf⟩ := ih
    refine ⟨c ++ '\t' :: front, ?_⟩
    rw [List.cons_append, joinTabs, hf, List.append_assoc, List.cons_append]
    exact fun e => by simp at e

theorem fields_display (m : Measurement) : fields '\t' (display m) = columns m :=
  fields_joinTabs (List.cons_ne_nil _ _) fun _ hcol h => (unbroken_columns hcol _ h).1 rfl

/-- A line ends with its last code. -/
theorem display_eq (m : Measurement) :
    ∃ front, display m = front ++ signedDecimal m.protoCode.toInt :=
  joinTabs_concat ((columns m).take 11) _

theorem mem_display {m : Measurement} {c : Char} (h : c ∈ display m) : c ≠ '\n' ∧ c ≠ '\r' := by
  rcases mem_joinTabs h with rfl | ⟨col, hcol, hc⟩
  · decide
  · exact (unbroken_columns hcol c hc).2

/-! ## Bytes -/

/-- The bytes of a record's line, without its end. -/
def lineBody (m : Measurement) : List UInt8 := Utf8.encode (display m)

theorem lineBytes_eq (m : Measurement) : Writer.lineBytes m = lineBody m ++ [10] := by
  rw [Writer.lineBytes, render, Utf8.encode, List.flatMap_append]
  rfl

theorem newline_notMem_lineBody (m : Measurement) : 10 ∉ lineBody m := fun h =>
  (mem_display (Utf8.newline_mem_encode h)).1 rfl

theorem count_newline_lineBytes (m : Measurement) : (Writer.lineBytes m).count 10 = 1 := by
  rw [lineBytes_eq, List.count_append, List.count_eq_zero_of_not_mem (newline_notMem_lineBody m)]
  rfl

/-- A file of lines has as many line ends as lines. -/
theorem count_newline_lines (ms : List Measurement) :
    (ms.flatMap Writer.lineBytes).count 10 = ms.length := by
  induction ms with
  | nil => rfl
  | cons m ms ih =>
    rw [List.flatMap_cons, List.count_append, count_newline_lineBytes, ih, List.length_cons,
      Nat.add_comm]

/-! ## Reading columns -/

/-- A time that a running clock shows: one of the representable seconds, and no leap second. -/
structure Regular (t : Timestamp) : Prop where
  low : Timestamp.minSecs ≤ t.secs
  high : t.secs ≤ Timestamp.maxSecs
  nanos : t.nanos < 1000000000

theorem fractionMillis_eq (ds : List Char) :
    fractionMillis ds = Nat.ofDigitChars 10 ((ds ++ ['0', '0', '0']).take 3) 0 := by
  rw [Nat.ofDigitChars_eq_foldl, fractionMillis]
  simp only [Nat.mul_comm]

/-- However many digits there are: the thousandths of their fraction, rounded down. -/
theorem fractionMillis_eq_div {ds : List Char} (h : Digits ds) :
    fractionMillis ds = Nat.ofDigitChars 10 ds 0 * 1000 / 10 ^ ds.length := by
  generalize hs : ds ++ ['0', '0', '0'] = s
  have hdigits : Digits s := by
    subst hs
    intro c hc
    rcases List.mem_append.mp hc with hc | hc
    · exact h c hc
    · simp only [List.mem_cons, List.not_mem_nil, or_false, or_self] at hc
      rw [hc]
      rfl
  have hvalue : Nat.ofDigitChars 10 s 0 = Nat.ofDigitChars 10 ds 0 * 1000 := by
    subst hs
    rw [Nat.ofDigitChars_append]
    simp only [Nat.ofDigitChars_cons, Nat.ofDigitChars_nil]
    omega
  -- Three digits are read, so as many as there were at first are left.
  have hlength : (s.drop 3).length = ds.length := by simp [← hs]
  have hrest : Nat.ofDigitChars 10 (s.drop 3) 0 < 10 ^ ds.length := by
    have hlt := ofDigitChars_lt (fun c hc => hdigits c (List.mem_of_mem_drop hc) :
      Digits (s.drop 3)) 0
    simpa only [hlength, Nat.zero_add, Nat.one_mul] using hlt
  rw [fractionMillis_eq, hs, ← hvalue, ofDigitChars_take_drop 3 s, hlength,
    Nat.mul_add_div (Nat.pow_pos (by decide)), Nat.div_eq_of_lt hrest, Nat.add_zero]

theorem fractionMillis_lt {ds : List Char} (hd : Digits ds) : fractionMillis ds < 1000 := by
  have hvalue : Nat.ofDigitChars 10 ds 0 < 10 ^ ds.length := by
    simpa only [Nat.zero_add, Nat.one_mul] using ofDigitChars_lt hd 0
  rw [fractionMillis_eq_div hd]
  exact Nat.div_lt_of_lt_mul ((Nat.mul_lt_mul_right (by decide)).mpr hvalue)

/-- Milliseconds as they come back: a fourth digit, which there is within a leap second, is lost. -/
def keptMillis (n : Nat) : Nat := if n < 1000 then n else n / 10

theorem fractionMillis_zeroPadded {n : Nat} (h : n < 10000) :
    fractionMillis (zeroPadded 3 n) = keptMillis n := by
  rw [fractionMillis_eq_div (digits_zeroPadded 3 n), ofDigitChars_zeroPadded, keptMillis]
  split
  · rename_i hlt
    rw [length_zeroPadded (by decide) hlt]
    exact Nat.mul_div_cancel n (by decide)
  · rename_i hge
    have hshort : (decimal n).length ≤ 4 := (Nat.length_toDigits_le_iff (by decide) (by decide)).mpr h
    have hlong : ¬ (decimal n).length ≤ 3 := fun hle =>
      hge ((Nat.length_toDigits_le_iff (by decide) (by decide)).mp hle)
    have hlength : (zeroPadded 3 n).length = 4 := by
      simp only [zeroPadded, List.length_append, List.length_replicate]
      omega
    rw [hlength]
    omega

/-- A time that can be represented, also within a leap second. -/
structure Representable (t : Timestamp) : Prop where
  low : Timestamp.minSecs ≤ t.secs
  high : t.secs ≤ Timestamp.maxSecs
  nanos : t.nanos < 2000000000

theorem Regular.representable {t : Timestamp} (h : Regular t) : Representable t :=
  ⟨h.low, h.high, Nat.lt_trans h.nanos (by decide)⟩

/-- What is read of a time as it is written. -/
def reread (t : Timestamp) : Timestamp := ⟨t.secs, keptMillis t.millis * 1000000⟩

theorem reread_of_regular {t : Timestamp} (h : Regular t) : reread t = t.truncated := by
  have hmillis : t.millis < 1000 := by
    have := h.nanos
    unfold Timestamp.millis
    omega
  rw [reread, keptMillis, if_pos hmillis, Timestamp.truncated]

/-- The texts of a time: its seconds, a point and the digits of its fraction, and blanks around. The
point may be missing where there are no digits. -/
inductive TimeText : List Char → Int → List Char → Prop
  | whole {front text back : List Char} {secs : Int} (hfront : isBlankText front = true)
      (hsecs : Spells text secs) (hback : isBlankText back = true) :
      TimeText (front ++ text ++ back) secs []
  | pointed {front text ds back : List Char} {secs : Int} (hfront : isBlankText front = true)
      (hsecs : Spells text secs) (hds : Digits ds) (hback : isBlankText back = true) :
      TimeText (front ++ (text ++ '.' :: ds) ++ back) secs ds

theorem TimeText.digits {raw ds : List Char} {secs : Int} (h : TimeText raw secs ds) :
    Digits ds := by
  cases h with
  | whole => exact fun _ hc => nomatch hc
  | pointed _ _ hds => exact hds

theorem timeText_renderTime (t : Timestamp) :
    TimeText (renderTime t) t.secs (zeroPadded 3 t.millis) := by
  have h : TimeText ([] ++ (signedDecimal t.secs ++ '.' :: zeroPadded 3 t.millis) ++ [])
      t.secs (zeroPadded 3 t.millis) :=
    .pointed rfl (spells_signedDecimal t.secs) (digits_zeroPadded 3 t.millis) rfl
  rwa [List.nil_append, List.append_nil] at h

theorem solid_of_spells {text : List Char} {i : Int} (h : Spells text i) : Solid text := by
  intro c hc
  rcases h.mem hc with rfl | rfl | hd
  · rfl
  · rfl
  · exact isBlank_of_isDigit hd

theorem point_notMem_of_spells {text : List Char} {i : Int} (h : Spells text i) : '.' ∉ text := by
  intro hc
  rcases h.mem hc with e | e | e
  all_goals exact absurd e (by decide)

/-- Whatever text a time has, the reader takes its seconds and three digits behind the point. -/
theorem parseTime_of_text {raw ds : List Char} {secs : Int} (h : TimeText raw secs ds)
    (hlow : Timestamp.minSecs ≤ secs) (hhigh : secs ≤ Timestamp.maxSecs) :
    parseTime raw = .ok ⟨secs, fractionMillis ds * 1000000⟩ := by
  have hat : Timestamp.at? secs (fractionMillis ds * 1000000) =
      some ⟨secs, fractionMillis ds * 1000000⟩ := by
    have := fractionMillis_lt h.digits
    exact if_pos ⟨hlow, hhigh, by omega⟩
  have hread : ∀ {text}, Spells text secs → parseInt maxI64 text = .ok secs := by
    simp only [Timestamp.minSecs, Timestamp.maxSecs] at hlow hhigh
    intro text hsecs
    exact parseInt_of_spells hsecs (by simp only [maxI64]; omega) (by simp only [maxI64]; omega)
  cases h with
  | whole hfront hsecs hback =>
    have hcut := (cut?_eq_none_iff '.' _).mpr (point_notMem_of_spells hsecs)
    unfold parseTime
    rw [trim_around hfront (solid_of_spells hsecs) hsecs.ne_nil hback]
    simp only [hcut, hread hsecs, List.all_nil, hat]
    rfl
  | pointed hfront hsecs hds hback =>
    have hpoint : isBlank '.' = false := rfl
    have hsolid := (solid_of_spells hsecs).append (.cons hpoint (solid_of_digits hds))
    have hall := List.all_eq_true.mpr hds
    unfold parseTime
    rw [trim_around hfront hsolid (by simp) hback]
    simp only [cut?_append (point_notMem_of_spells hsecs), hread hsecs, hall, hat]
    rfl

theorem parseTime_renderTime {t : Timestamp} (h : Representable t) :
    parseTime (renderTime t) = .ok (reread t) := by
  have hmillis : t.millis < 10000 := by
    have := h.nanos
    unfold Timestamp.millis
    omega
  rw [parseTime_of_text (timeText_renderTime t) h.low h.high, fractionMillis_zeroPadded hmillis]
  rfl

theorem parseCounter_decimal (name : String) (n : UInt64) :
    parseCounter name (decimal n.toNat) = .ok n := by
  have hn : n.toNat ≤ maxU64 := Nat.le_of_lt_succ n.toNat_lt
  rw [parseCounter, trim_of_solid (solid_decimal _), parseNat_decimal hn]
  simp only [UInt64.ofNat_toNat]

theorem parseCode_signedDecimal (name : String) (i : Int32) :
    parseCode name (signedDecimal i.toInt) = .ok i := by
  have hlow := i.le_toInt
  have hhigh := i.toInt_lt
  have hi : parseInt maxI32 (signedDecimal i.toInt) = .ok i.toInt :=
    parseInt_signedDecimal (by simp only [maxI32]; omega) (by simp only [maxI32]; omega)
  rw [parseCode, trim_of_solid (solid_signedDecimal _), hi]
  simp only [Int32.ofInt_toInt]

/-! ## Reading lines -/

/-- What a line keeps of a measurement. -/
def recorded (m : Measurement) : Measurement :=
  { m with sentAt := m.sentAt.truncated, tag := .ofList (plainTag m.tag.toList) }

/-- **A written line is read back**, in whatever second it was written. -/
theorem parse_display_ends {m : Measurement} (h : Representable m.sentAt) {ends : List Char}
    (hends : ∀ c ∈ ends, c = '\r' ∨ c = '\n') :
    parse (display m ++ ends) = .ok { recorded m with sentAt := reread m.sentAt } := by
  have hbody : trimEndWhile (fun c => c == '\r' || c == '\n') (display m ++ ends) = display m := by
    obtain ⟨front, hf⟩ := display_eq m
    rw [hf]
    refine trimEndWhile_append_of_none front (signedDecimal_ne_nil _) (fun c hc => ?_)
      fun c hc => ?_
    · have := unbroken_of_solid (solid_signedDecimal _) c hc
      simp [this.2.1, this.2.2]
    · simpa using hends c hc
  unfold parse
  simp only [hbody, fields_display, columns, parseTime_renderTime h, parseCounter_decimal,
    parseCode_signedDecimal]
  rfl

theorem parse_display_append {m : Measurement} (h : Regular m.sentAt) {ends : List Char}
    (hends : ∀ c ∈ ends, c = '\r' ∨ c = '\n') :
    parse (display m ++ ends) = .ok (recorded m) := by
  rw [parse_display_ends h.representable hends, reread_of_regular h]
  rfl

theorem parse_display {m : Measurement} (h : Regular m.sentAt) :
    parse (display m) = .ok (recorded m) := by
  rw [← List.append_nil (display m)]
  exact parse_display_append h fun _ hc => nomatch hc

theorem lines_render (ms : List Measurement) : lines (ms.flatMap render) = ms.map display := by
  have hl : (ms.map display).flatMap (· ++ ['\n']) = ms.flatMap render := by
    rw [List.flatMap_map]
    rfl
  rw [← hl]
  refine lines_flatMap (fun l hmem hn => ?_) fun l hmem hr => ?_
  all_goals obtain ⟨m, -, rfl⟩ := List.mem_map.mp hmem
  · exact (mem_display hn).1 rfl
  · exact (mem_display (List.mem_of_getLast? hr)).2 rfl

theorem isBlankText_display (m : Measurement) : isBlankText (display m) = false := by
  obtain ⟨front, hf⟩ := display_eq m
  obtain ⟨c, hc⟩ := List.exists_mem_of_ne_nil _ (signedDecimal_ne_nil m.protoCode.toInt)
  rw [isBlankText, List.all_eq_false]
  refine ⟨c, by rw [hf]; exact List.mem_append_right _ hc, ?_⟩
  rw [solid_signedDecimal _ c hc]
  exact Bool.false_ne_true

/-- **A written file is read back**, each record under the base name of its tag. -/
theorem parseAll_render {ms : List Measurement} (h : ∀ m ∈ ms, Regular m.sentAt) :
    parseAll (ms.flatMap render) = (ms.map fun m => normalized (recorded m), 0) := by
  have hlines : (lines (ms.flatMap render)).filter (fun l => !isBlankText l) = ms.map display := by
    rw [lines_render]
    refine List.filter_eq_self.mpr fun l hl => ?_
    obtain ⟨m, -, rfl⟩ := List.mem_map.mp hl
    rw [isBlankText_display]
    rfl
  have hparsed : (ms.map display).map parse = ms.map fun m => .ok (recorded m) := by
    rw [List.map_map]
    exact List.map_congr_left fun m hm => parse_display (h m hm)
  simp only [parseAll, hlines, hparsed, List.filterMap_map, List.filter_map, Function.comp_def,
    Except.toOption]
  simp

end Volley.Phout
