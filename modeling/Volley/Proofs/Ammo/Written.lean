import Volley.Ammo.Reader
import Volley.Proofs.Text.Blank
import Volley.Proofs.Text.Lines

/-!
# Ammunition that was written as text

A missile is written as a line: its marker, a tab and its payload. `WrittenAs` says which texts hold
the lines of which missiles: each line is ended by a line feed or by a carriage return and a line
feed, the last one perhaps not at all, and between the lines may stand others that are blank.

A line is read in two goes: the text is cut into lines, which takes off the end of each, and what is
then left of carriage returns and line feeds behind a line is trimmed. So the pieces between line
feeds can be read with their ends on (`missiles_eq`), and a line is read alike whatever ends it
(`missile?_line`).

* `missiles_of_writtenAs`: the missiles of such a text, in both formats.
* `reads_written`: the reader of such a text.
-/
namespace Volley

/-! ## Texts -/

namespace Missile

/-- The line of a missile. -/
def line (m : Missile) : List Char := m.marker.toList ++ '\t' :: m.payload.toList

/-- The first tab of the line is the one between marker and payload, the line ends where the payload
does, and it is not blank. -/
structure Writable (m : Missile) : Prop where
  tab_notMem : '\t' ∉ m.marker.toList
  newline_notMem_marker : '\n' ∉ m.marker.toList
  newline_notMem_payload : '\n' ∉ m.payload.toList
  getLast?_ne : m.payload.toList.getLast? ≠ some '\r'
  solid : ∃ c ∈ m.marker.toList ++ m.payload.toList, Text.isBlank c = false

end Missile

inductive LineEnd where
  | lf
  | crlf
  deriving DecidableEq, Repr

namespace LineEnd

/-- What stands before the line feed. -/
def lead : LineEnd → List Char
  | lf => []
  | crlf => ['\r']

def text (e : LineEnd) : List Char := e.lead ++ ['\n']

end LineEnd

/-- Blanks that stand on one line. -/
structure BlankLine (t : List Char) : Prop where
  newline_notMem : '\n' ∉ t
  isBlank : ∀ c ∈ t, Text.isBlank c = true

/-- The text holds the lines of the missiles, in order, and blank lines anywhere between them. -/
inductive WrittenAs : List Missile → List Char → Prop
  | blank {t rest : List Char} {ms : List Missile} (ht : BlankLine t) (e : LineEnd)
      (h : WrittenAs ms rest) : WrittenAs ms (t ++ e.text ++ rest)
  | shot {m : Missile} {rest : List Char} {ms : List Missile} (hm : m.Writable) (e : LineEnd)
      (h : WrittenAs ms rest) : WrittenAs (m :: ms) (m.line ++ e.text ++ rest)
  | lastBlank {t : List Char} (ht : BlankLine t) : WrittenAs [] t
  | lastShot {m : Missile} (hm : m.Writable) : WrittenAs [m] m.line

namespace AmmoFormat

/-- What a format makes of the line of a missile. -/
def shown : AmmoFormat → Missile → Missile
  | line, m => .unmarked (.ofList m.line)
  | caseLine, m => m

/-! ## Lines -/

/-- Whether a character is trimmed off the end of a line. -/
abbrev isLineEnd (c : Char) : Bool := c == '\r' || c == '\n'

theorem isLineEnd_of_mem_text (e : LineEnd) : ∀ c ∈ e.text, isLineEnd c = true := by
  cases e <;> exact List.all_eq_true.mp rfl

theorem isBlank_of_mem_text (e : LineEnd) : ∀ c ∈ e.text, Text.isBlank c = true := by
  cases e <;> exact List.all_eq_true.mp rfl

/-- The reading of a line after what ends it was trimmed. -/
theorem missile?_of_trimmed (f : AmmoFormat) {t u : List Char}
    (h : Text.trimEndWhile isLineEnd t = Text.trimEndWhile isLineEnd u) :
    f.missile? t = f.missile? u := by
  unfold missile?
  rw [h]

theorem missile?_stripTerminator (f : AmmoFormat) (l : List Char) :
    f.missile? (Text.stripTerminator l) = f.missile? l :=
  f.missile?_of_trimmed (Text.trimEndWhile_stripTerminator (by decide) (by decide) l)

/-- The pieces of a text may keep their ends. -/
theorem missiles_eq (f : AmmoFormat) (text : List Char) :
    f.missiles text = (Text.splitAfter (· == '\n') text).filterMap f.missile? := by
  rw [missiles, Text.lines, List.filterMap_map]
  congr 1
  funext l
  exact f.missile?_stripTerminator l

theorem missile?_blank (f : AmmoFormat) {t : List Char} (ht : ∀ c ∈ t, Text.isBlank c = true) :
    f.missile? t = none := by
  obtain ⟨tail, htail, -⟩ := Text.trimEndWhile_append isLineEnd t
  have hbody : Text.isBlankText (Text.trimEndWhile isLineEnd t) = true := by
    rw [Text.isBlankText, List.all_eq_true]
    intro c hc
    apply ht
    rw [htail]
    exact List.mem_append_left tail hc
  unfold missile?
  exact if_pos hbody

/-- A line ends with a character that belongs to no line's end. -/
theorem line_eq_concat {m : Missile} (hm : m.Writable) :
    ∃ s c, m.line = s ++ [c] ∧ isLineEnd c = false := by
  rcases List.eq_nil_or_concat m.payload.toList with hp | ⟨s, c, hp⟩
  · exact ⟨m.marker.toList, '\t', by rw [Missile.line, hp], by decide⟩
  · refine ⟨m.marker.toList ++ '\t' :: s, c, ?_, ?_⟩
    · rw [Missile.line, hp, List.concat_eq_append, List.append_assoc, List.cons_append]
    · have hr : c ≠ '\r' := by
        intro e
        apply hm.getLast?_ne
        rw [hp, e, List.concat_eq_append, List.getLast?_concat]
      have hn : c ≠ '\n' := by
        intro e
        apply hm.newline_notMem_payload
        rw [hp, e, List.concat_eq_append]
        exact List.mem_concat_self
      simp [isLineEnd, hr, hn]

/-- Whatever ends it, the line of a missile is read as the format shows it. -/
theorem missile?_line (f : AmmoFormat) {m : Missile} (hm : m.Writable) {tail : List Char}
    (htail : ∀ c ∈ tail, isLineEnd c = true) : f.missile? (m.line ++ tail) = some (f.shown m) := by
  have htrim : Text.trimEndWhile isLineEnd (m.line ++ tail) = m.line := by
    obtain ⟨s, c, hline, hc⟩ := line_eq_concat hm
    rw [hline]
    refine Text.trimEndWhile_append_of_none s (List.cons_ne_nil c []) ?_ htail
    intro d hd
    rw [List.mem_singleton.mp hd, hc]
  have hsolid : ¬ Text.isBlankText m.line = true := by
    obtain ⟨c, hmem, hc⟩ := hm.solid
    have hin : c ∈ m.line := by
      rw [Missile.line, List.mem_append, List.mem_cons]
      rcases List.mem_append.mp hmem with h | h
      · exact .inl h
      · exact .inr (.inr h)
    rw [Text.isBlankText, List.all_eq_true]
    intro hall
    rw [hall c hin] at hc
    cases hc
  have hcut : Text.cut? '\t' m.line = some (m.marker.toList, m.payload.toList) :=
    Text.cut?_append hm.tab_notMem m.payload.toList
  unfold missile?
  simp only [htrim, if_neg hsolid]
  cases f with
  | line => rfl
  | caseLine => simp only [hcut, String.ofList_toList, shown]

/-! ## Texts -/

theorem newline_notMem_line {m : Missile} (hm : m.Writable) : '\n' ∉ m.line := by
  rw [Missile.line, List.mem_append, List.mem_cons]
  rintro (h | h | h)
  · exact hm.newline_notMem_marker h
  · exact absurd h (by decide)
  · exact hm.newline_notMem_payload h

theorem missiles_append (f : AmmoFormat) {l : List Char} (hl : '\n' ∉ l) (e : LineEnd)
    (rest : List Char) :
    f.missiles (l ++ e.text ++ rest) = (f.missile? (l ++ e.text)).toList ++ f.missiles rest := by
  have hno : ∀ x ∈ l ++ e.lead, (x == '\n') = false := by
    intro x hx
    rw [beq_eq_false_iff_ne]
    rintro rfl
    rcases List.mem_append.mp hx with h | h
    · exact hl h
    · cases e <;> simp [LineEnd.lead] at h
  have hline : l ++ e.text = (l ++ e.lead) ++ ['\n'] := by
    rw [LineEnd.text, List.append_assoc]
  have hall : l ++ e.text ++ rest = (l ++ e.lead) ++ '\n' :: rest := by
    rw [hline, List.append_assoc, List.singleton_append]
  rw [missiles_eq, missiles_eq, hall, Text.splitAfter_append (p := (· == '\n')) rfl,
    Text.splitAfter_line (p := (· == '\n')) rfl hno, ← hline, List.filterMap_append,
    List.filterMap_cons, List.filterMap_nil]
  cases f.missile? (l ++ e.text) <;> rfl

theorem missiles_last (f : AmmoFormat) {l : List Char} (hl : '\n' ∉ l) :
    f.missiles l = (f.missile? l).toList := by
  rw [missiles_eq]
  by_cases hnil : l = []
  · rw [hnil, f.missile?_blank (List.forall_mem_nil (Text.isBlank · = true))]
    rfl
  · have hno : ∀ x ∈ l, (x == '\n') = false := by
      intro x hx
      rw [beq_eq_false_iff_ne]
      rintro rfl
      exact hl hx
    rw [Text.splitAfter_of_none hnil hno, List.filterMap_cons, List.filterMap_nil]
    cases f.missile? l <;> rfl

/-- What was written is read again, and blank lines are not seen. -/
theorem missiles_of_writtenAs (f : AmmoFormat) {ms : List Missile} {text : List Char}
    (h : WrittenAs ms text) : f.missiles text = ms.map f.shown := by
  induction h with
  | @blank t rest ms ht e h ih =>
    have hnone : f.missile? (t ++ e.text) = none := by
      apply f.missile?_blank
      intro c hc
      rcases List.mem_append.mp hc with hc | hc
      · exact ht.isBlank c hc
      · exact isBlank_of_mem_text e c hc
    rw [f.missiles_append ht.newline_notMem, hnone, ih]
    rfl
  | @shot m rest ms hm e h ih =>
    rw [f.missiles_append (newline_notMem_line hm), f.missile?_line hm (isLineEnd_of_mem_text e),
      ih]
    rfl
  | lastBlank ht => rw [f.missiles_last ht.newline_notMem, f.missile?_blank ht.isBlank]; rfl
  | @lastShot m hm =>
    have hline := f.missile?_line hm (List.forall_mem_nil (isLineEnd · = true))
    rw [List.append_nil] at hline
    rw [f.missiles_last (newline_notMem_line hm), hline]
    rfl

end AmmoFormat

namespace AmmoReader

/-- A reader of missiles stands at its start, and no missiles make no reader. -/
theorem ofMissiles_cases (ms : List Missile) (loops : Option Nat) :
    (ms ≠ [] → ∃ r, ofMissiles ms loops = .ok r ∧ r.missiles = ms ∧ r.loops = loops ∧
      r.pass = 0 ∧ r.index = 0) ∧
    (ms = [] → ofMissiles ms loops = .error (.validation "Ammo contains no missiles")) := by
  unfold ofMissiles
  constructor
  · intro hne
    rw [dif_pos hne]
    exact ⟨_, rfl, rfl, rfl, rfl, rfl⟩
  · intro hnil
    rw [dif_neg (fun hne => hne hnil)]

/-- **Ammunition is read as it was written.** However the lines are ended, and whatever blank lines
stand between them, a text is read as exactly the missiles it was written from, or, line by line, as
their whole lines without markers; without missiles there is no reader. -/
theorem reads_written {ms : List Missile} {text : List Char} (h : WrittenAs ms text)
    (loops : Option Nat) :
    (ms ≠ [] →
      (∃ r, ofText text .caseLine loops = .ok r ∧ r.missiles = ms ∧ r.loops = loops ∧
        r.pass = 0 ∧ r.index = 0) ∧
      ∃ r, ofText text .line loops = .ok r ∧
        r.missiles = ms.map (fun m => .unmarked (.ofList m.line)) ∧ r.loops = loops ∧
        r.pass = 0 ∧ r.index = 0) ∧
    (ms = [] → ∀ format, ofText text format loops =
      .error (.validation "Ammo contains no missiles")) := by
  have hcase : AmmoFormat.caseLine.missiles text = ms := by
    rw [AmmoFormat.missiles_of_writtenAs _ h]
    exact List.map_id ms
  constructor
  · intro hne
    constructor
    · rw [ofText, hcase]
      exact (ofMissiles_cases ms loops).1 hne
    · have hne' : ms.map AmmoFormat.line.shown ≠ [] := by simpa using hne
      rw [ofText, AmmoFormat.missiles_of_writtenAs _ h]
      exact (ofMissiles_cases _ loops).1 hne'
  · intro hnil format
    rw [ofText, AmmoFormat.missiles_of_writtenAs _ h, hnil]
    exact (ofMissiles_cases _ loops).2 rfl

/-- A marker with an empty payload, ended by both characters, and a payload with a tab and no
marker. Between and behind them stand blank lines, one with a carriage return of its own. -/
def mixedEnds : List Char :=
  ['a', '#', '1', '\t', '\r', '\n', ' ', '\t', '\r', '\n', '\t', 'x', '\t', 'y', '\n', '\u3000']

theorem writtenAs_mixedEnds : WrittenAs [⟨"", "a#1"⟩, ⟨"x\ty", ""⟩] mixedEnds := by
  have h1 : Missile.Writable ⟨"", "a#1"⟩ :=
    ⟨by decide, by decide, by decide, by decide, 'a', by decide, by decide⟩
  have h2 : Missile.Writable ⟨"x\ty", ""⟩ :=
    ⟨by decide, by decide, by decide, by decide, 'x', by decide, by decide⟩
  have hb : BlankLine [' ', '\t', '\r'] := ⟨by decide, List.all_eq_true.mp rfl⟩
  have hlast : BlankLine ['\u3000'] := ⟨by decide, List.all_eq_true.mp rfl⟩
  exact .shot h1 .crlf (.blank hb .lf (.shot h2 .lf (.lastBlank hlast)))

theorem reads_written_mixedEnds :
    WrittenAs [⟨"", "a#1"⟩, ⟨"x\ty", ""⟩] mixedEnds ∧
    (∃ r, ofText mixedEnds .caseLine (some 3) = .ok r ∧
      r.missiles = [⟨"", "a#1"⟩, ⟨"x\ty", ""⟩] ∧ r.loops = some 3 ∧ r.pass = 0 ∧ r.index = 0) ∧
    (∃ r, ofText mixedEnds .line (some 3) = .ok r ∧
      r.missiles = [.unmarked "a#1\t", .unmarked "\tx\ty"] ∧ r.loops = some 3 ∧ r.pass = 0 ∧
        r.index = 0) ∧
    WrittenAs [] ['\u3000'] ∧
    ofText ['\u3000'] .line none = .error (.validation "Ammo contains no missiles") := by
  have hblank : WrittenAs [] ['\u3000'] := .lastBlank ⟨by decide, List.all_eq_true.mp rfl⟩
  obtain ⟨hcase, hline⟩ :=
    (reads_written writtenAs_mixedEnds (some 3)).1 (List.cons_ne_nil _ _)
  exact ⟨writtenAs_mixedEnds, hcase, hline, hblank, (reads_written hblank none).2 rfl .line⟩

end AmmoReader

end Volley
