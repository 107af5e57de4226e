import Volley.Proofs.Phout.Line

/-!
# One written form

Many texts are read as the same measurement: a number may have a sign, zeros or blanks around it, and
a fraction any count of digits. `render` writes one of them. It is a normal form: what a reader
accepts comes back from what is written of it, so a second writing changes nothing.

* `line_reads_back`: the layout of a written line, and what reading it gives.
* `parse_cases`: what is read is regular, no finer than a millisecond, and has no tab in its tag.
* `render_normal_form`: reading and writing again, from any text that is accepted.
-/
namespace Volley.Phout

open Numeral Text

/-! ## The layout of a line -/

theorem count_joinTabs {cols : List (List Char)} (h : ∀ col ∈ cols, '\t' ∉ col) :
    (joinTabs cols).count '\t' = cols.length - 1 := by
  fun_induction joinTabs cols with
  | case1 => rfl
  | case2 col => exact List.count_eq_zero.mpr (h col List.mem_cons_self)
  | case3 col r hr ih =>
    have hcol : col.count '\t' = 0 := List.count_eq_zero.mpr (h col List.mem_cons_self)
    have hrest := ih fun col' h' => h col' (List.mem_cons_of_mem _ h')
    have hlength : 0 < r.length := List.length_pos_iff.mpr hr
    rw [List.count_append, List.count_cons_self, hcol, hrest, List.length_cons]
    omega

theorem count_display (m : Measurement) : (display m).count '\t' = 11 :=
  count_joinTabs fun _ hcol h => (unbroken_columns hcol _ h).1 rfl

theorem plainChar_eq (c : Char) :
    plainChar c = if c = '\t' ∨ c = '\r' ∨ c = '\n' then ' ' else c := by
  simp only [plainChar, Bool.or_eq_true, beq_iff_eq, or_assoc, or_comm (a := c = '\n')]

/-- **A written line is read back.** It ends in its only line feed and holds eleven tabs and no
carriage return. With any line end or none it is read as the measurement, with its time cut to the
millisecond and blanks in its tag in place of tabs and line ends. -/
theorem line_reads_back {m : Measurement} (h : Regular m.sentAt) :
    let back : Measurement :=
      { m with
        sentAt := m.sentAt.truncated
        tag := .ofList (m.tag.toList.map fun c =>
          if c = '\t' ∨ c = '\r' ∨ c = '\n' then ' ' else c) }
    (render m).getLast? = some '\n' ∧ (render m).count '\n' = 1 ∧ (render m).count '\t' = 11 ∧
      '\r' ∉ render m ∧ parse (render m) = .ok back ∧
      ∀ ends, (∀ c ∈ ends, c = '\r' ∨ c = '\n') →
        parse ((render m).dropLast ++ ends) = .ok back := by
  intro back
  have hback : recorded m = back := by
    show recorded m = { m with sentAt := _, tag := _ }
    simp only [recorded, plainTag, funext plainChar_eq]
  have hread : ∀ ends, (∀ c ∈ ends, c = '\r' ∨ c = '\n') → parse (display m ++ ends) = .ok back :=
    fun ends hends => hback ▸ parse_display_append h hends
  have hn : (display m).count '\n' = 0 := List.count_eq_zero.mpr fun hc => (mem_display hc).1 rfl
  refine ⟨List.getLast?_concat, ?_, ?_, ?_, hread ['\n'] ?_, fun ends hends => ?_⟩
  · rw [render, List.count_append, hn]
    rfl
  · rw [render, List.count_append, count_display]
    rfl
  · rw [render, List.mem_append, not_or]
    exact ⟨fun hc => (mem_display hc).2 rfl, by decide⟩
  · intro c hc
    exact .inr (List.mem_singleton.mp hc)
  · rw [render, List.dropLast_concat]
    exact hread ends hends

/-- A shot before 1970 at the ends of all ranges, under a tag that would break a line. -/
def tornShot : Measurement where
  toFigures :=
    { Figures.initial with
      connectTime := 18446744073709551615
      netCode := -2147483648
      protoCode := 2147483647 }
  sentAt := ⟨Timestamp.minSecs, 999999999⟩
  tag := "#\t\r\né#"
  intervalReal := 18446744073709551615

theorem line_reads_back_tornShot :
    Regular tornShot.sentAt ∧
      parse ((render tornShot).dropLast ++ ['\r', '\n']) =
        .ok { tornShot with sentAt := ⟨-8334601228800, 999000000⟩, tag := "#   é#" } := by
  have hregular : Regular tornShot.sentAt := ⟨by decide, by decide, by decide⟩
  have hends : ∀ c ∈ ['\r', '\n'], c = '\r' ∨ c = '\n' := by simp
  exact ⟨hregular, (line_reads_back hregular).2.2.2.2.2 ['\r', '\n'] hends⟩

/-! ## What is read -/

/-- What is made of whole seconds and the digits behind the point. -/
theorem regular_of_parts {secs : Int} {part : List Char} {t : Timestamp} (hpart : Digits part)
    (h : Timestamp.at? secs (fractionMillis part * 1000000) = some t) :
    Regular t ∧ t.truncated = t := by
  have hmillis : fractionMillis part < 1000 := fractionMillis_lt hpart
  unfold Timestamp.at? at h
  split at h
  · rename_i hrange
    cases h
    refine ⟨⟨hrange.1, hrange.2.1, ?_⟩, ?_⟩
    · show fractionMillis part * 1000000 < 1000000000
      omega
    · simp only [Timestamp.truncated, Timestamp.millis,
        Nat.mul_div_cancel _ (show 0 < 1000000 by decide)]
  · cases h

/-- Whatever its signs, zeros and decimals, a time that is read is regular and no finer than a
millisecond. -/
theorem parseTime_cases {raw : List Char} {t : Timestamp} (h : parseTime raw = .ok t) :
    Regular t ∧ t.truncated = t := by
  unfold parseTime at h
  cases hc : cut? '.' (trim raw) <;> simp only [hc] at h
  all_goals
    split at h
    · cases h
    · split at h
      · cases h
      · rename_i hpart
        rw [Bool.not_eq_true, Bool.not_eq_false'] at hpart
        split at h
        · rename_i hat
          cases h
          exact regular_of_parts (List.all_eq_true.mp hpart) hat
        · cases h

/-- Where a measurement is read, its time was, and its tag is one of the fields between tabs. -/
theorem parse_cases {line : List Char} {m : Measurement} (h : parse line = .ok m) :
    Regular m.sentAt ∧ m.sentAt.truncated = m.sentAt ∧ '\t' ∉ m.tag.toList := by
  unfold parse at h
  dsimp only at h
  split at h
  · rename_i time tag _ _ _ _ _ _ _ _ _ _ hfields
    obtain ⟨sentAt, htime, h⟩ := ok_of_bind h
    -- The ten counters and codes may be any.
    iterate 10 obtain ⟨_, -, h⟩ := ok_of_bind h
    cases h
    have htag : (String.ofList tag).toList ∈ fields '\t'
        (trimEndWhile (fun c => c == '\r' || c == '\n') line) := by
      rw [hfields, String.toList_ofList]
      exact List.mem_cons_of_mem _ List.mem_cons_self
    obtain ⟨hregular, htruncated⟩ := parseTime_cases htime
    exact ⟨hregular, htruncated, not_mem_of_mem_fields htag⟩
  · cases h

/-! ## The normal form -/

theorem millis_truncated (t : Timestamp) : t.truncated.millis = t.millis :=
  Nat.mul_div_cancel _ (by decide)

theorem plainTag_plainTag (tag : List Char) : plainTag (plainTag tag) = plainTag tag := by
  have hplain : ∀ c ∈ plainTag tag, plainChar c = id c := by
    intro c hc
    obtain ⟨ht, hn, hr⟩ := unbroken_plainTag tag c hc
    rw [plainChar_eq, if_neg (by simp [ht, hn, hr]), id]
  rw [plainTag, List.map_congr_left hplain, List.map_id]

/-- What a line keeps of a measurement is all that is written of it. -/
theorem render_recorded (m : Measurement) : render (recorded m) = render m := by
  have htime : renderTime m.sentAt.truncated = renderTime m.sentAt := by
    rw [renderTime, millis_truncated]
    rfl
  simp only [render, display, columns, recorded, htime, String.toList_ofList, plainTag_plainTag]

/-- **What is written is a normal form of what is read.** Whatever text is read as a measurement, the
line that is written of it is read as the same again, but that line ends in its tag have become
blanks. That is written as before; where the tag holds no line ends, it is the measurement itself. -/
theorem render_normal_form {line : List Char} {m : Measurement} (h : parse line = .ok m) :
    let plain : Measurement :=
      { m with tag := .ofList (m.tag.toList.map fun c => if c = '\r' ∨ c = '\n' then ' ' else c) }
    parse (render m) = .ok plain ∧ render plain = render m ∧
      ('\r' ∉ m.tag.toList → '\n' ∉ m.tag.toList → plain = m) := by
  intro plain
  obtain ⟨hregular, htruncated, htab⟩ := parse_cases h
  have htag : plainTag m.tag.toList =
      m.tag.toList.map fun c => if c = '\r' ∨ c = '\n' then ' ' else c := by
    refine List.map_congr_left fun c hc => ?_
    have hne : c ≠ '\t' := fun e => htab (e ▸ hc)
    rw [plainChar_eq]
    simp only [hne, false_or]
  have hplain : recorded m = plain := by
    show recorded m = { m with tag := _ }
    rw [recorded, htruncated, htag]
  refine ⟨?_, ?_, fun hr hn => ?_⟩
  · rw [← hplain]
    exact parse_display_append hregular fun c hc => .inr (List.mem_singleton.mp hc)
  · rw [← hplain]
    exact render_recorded m
  · have hsame : ∀ c ∈ m.tag.toList, (if c = '\r' ∨ c = '\n' then ' ' else c) = id c := by
      intro c hc
      have hcr : c ≠ '\r' := fun e => hr (e ▸ hc)
      have hlf : c ≠ '\n' := fun e => hn (e ▸ hc)
      exact if_neg (not_or.mpr ⟨hcr, hlf⟩)
    show { m with tag := _ } = m
    rw [List.map_congr_left hsame, List.map_id, String.ofList_toList]

/-- A line with blanks, signs and zeros around its numbers, more decimals than are read, line ends in
its tag, and several behind it. -/
def looseLine : List Char :=
  ("\u3000-0005.12345678901234567890 \ta\rb\nc\t +7\t\u00a00\t0\t0\t0\t0\t0\t" ++
    "18446744073709551615\t-0\t+200\r\n\r").toList

/-- What is read of it. -/
def looseShot : Measurement where
  toFigures := { Figures.initial with sizeIn := 18446744073709551615 }
  sentAt := ⟨-5, 123000000⟩
  tag := "a\rb\nc"
  intervalReal := 7

theorem render_normal_form_looseLine :
    parse looseLine = .ok looseShot ∧
      parse (render looseShot) = .ok { looseShot with tag := "a b c" } ∧
      render { looseShot with tag := "a b c" } = render looseShot := by
  have hread : parse looseLine = .ok looseShot := by rfl
  obtain ⟨hback, hagain, -⟩ := render_normal_form hread
  exact ⟨hread, hback, hagain⟩

end Volley.Phout
