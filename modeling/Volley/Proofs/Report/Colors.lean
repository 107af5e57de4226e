import Volley.Proofs.Numeral.Integer
import Volley.Report.Format

/-!
# Reports in colors

A report in colors tells what the plain one tells. What a terminal shows of it is a heading, the
rows of the plain report, and one row on the health of the run; where no escapes are taken it is
that very text.

* `Terminal.shown`, `visible`: a text without its escape sequences.
* `Shows`: a part of a text is shown as another text, whatever comes after it.
* `shows_paint`: painting does not show.
* `colored_shows_plain`: both reports of a run.
-/
namespace Volley

/-! ## What a terminal shows -/

/-- Where a terminal stands in a text: among characters that are shown, behind an escape character,
or in a control sequence. -/
inductive Terminal where
  | text
  | escape
  | sequence

/-- The characters that are shown. A control sequence goes to the first of the characters from `@`
to `~`; behind an escape character any other one is a command by itself. -/
def Terminal.shown : Terminal → List Char → List Char
  | _, [] => []
  | .text, c :: r => if c = '\x1b' then shown .escape r else c :: shown .text r
  | .escape, c :: r => shown (if c = '[' then .sequence else .text) r
  | .sequence, c :: r =>
    shown (if '@'.toNat ≤ c.toNat ∧ c.toNat ≤ '~'.toNat then .text else .sequence) r

/-- A text without its escape sequences. -/
def visible (s : String) : String := .ofList (Terminal.shown .text s.toList)

/-- No character of a text is an escape. -/
def Plain (s : List Char) : Prop := '\x1b' ∉ s

instance (s : List Char) : Decidable (Plain s) := inferInstanceAs (Decidable ('\x1b' ∉ s))

@[simp] theorem plain_nil : Plain [] := List.not_mem_nil

@[simp] theorem plain_cons {c : Char} {s : List Char} : Plain (c :: s) ↔ c ≠ '\x1b' ∧ Plain s := by
  simp [Plain, eq_comm]

@[simp] theorem plain_append {s t : List Char} : Plain (s ++ t) ↔ Plain s ∧ Plain t := by
  simp [Plain]

theorem plain_replicate {c : Char} (h : c ≠ '\x1b') (n : Nat) : Plain (List.replicate n c) :=
  fun hmem => h (List.eq_of_mem_replicate hmem).symm

namespace Terminal

variable {s : List Char}

theorem shown_plain (h : Plain s) (rest : List Char) :
    shown .text (s ++ rest) = s ++ shown .text rest := by
  induction s with
  | nil => rfl
  | cons c s ih =>
    obtain ⟨hc, hs⟩ := plain_cons.mp h
    rw [List.cons_append, shown, if_neg hc, ih hs, List.cons_append]

/-- Numbers and semicolons do not end a control sequence, an `m` does. -/
theorem shown_sequence (h : ∀ c ∈ s, c.toNat < '@'.toNat) (rest : List Char) :
    shown .sequence (s ++ 'm' :: rest) = shown .text rest := by
  induction s with
  | nil => rfl
  | cons c s ih =>
    have hc : ¬('@'.toNat ≤ c.toNat ∧ c.toNat ≤ '~'.toNat) := fun hend =>
      absurd hend.1 (Nat.not_le.mpr (h c List.mem_cons_self))
    rw [List.cons_append, shown, if_neg hc]
    exact ih fun c' hc' => h c' (List.mem_cons_of_mem _ hc')

theorem shown_opening (style : Style) (rest : List Char) :
    shown .text (style.opening ++ rest) = shown .text rest := by
  have hcodes : (";".intercalate style.codes).toList.all (·.toNat < '@'.toNat) = true := by
    obtain ⟨bold, dim, color⟩ := style
    rcases color with _ | color
    · cases bold <;> cases dim <;> decide
    · cases color <;> cases bold <;> cases dim <;> decide
  have hsplit : style.opening ++ rest =
      '\x1b' :: '[' :: ((";".intercalate style.codes).toList ++ 'm' :: rest) := by
    simp [Style.opening]
  rw [hsplit]
  exact shown_sequence (fun c hc => by simpa using List.all_eq_true.mp hcodes c hc) rest

theorem shown_reset (rest : List Char) : shown .text (Style.reset ++ rest) = shown .text rest := rfl

end Terminal

/-! ## Parts of a text -/

/-- A part of a text is shown as another text, and leaves the terminal as it was. -/
def Shows (part text : String) : Prop :=
  ∀ rest, Terminal.shown .text (part.toList ++ rest) =
    text.toList ++ Terminal.shown .text rest

theorem Shows.visible_eq {part text : String} (h : Shows part text) : visible part = text := by
  have hall := h []
  rw [List.append_nil, Terminal.shown, List.append_nil] at hall
  rw [visible, hall, String.ofList_toList]

theorem shows_plain {s : String} (h : Plain s.toList) : Shows s s := Terminal.shown_plain h

theorem shows_newline : Shows "\n" "\n" := shows_plain (by decide)

theorem shows_blank : Shows " " " " := shows_plain (by decide)

/-- The margin of a row. -/
theorem shows_margin : Shows "  " "  " := shows_plain (by decide)

theorem Shows.append {a b s t : String} (ha : Shows a s) (hb : Shows b t) :
    Shows (a ++ b) (s ++ t) := by
  intro rest
  rw [String.toList_append, String.toList_append, List.append_assoc, List.append_assoc, ha, hb]

theorem shows_join {α : Type} {f g : α → String} {as : List α} (h : ∀ a ∈ as, Shows (f a) (g a)) :
    Shows (String.join (as.map f)) (String.join (as.map g)) := by
  induction as with
  | nil => exact fun _ => rfl
  | cons a as ih =>
    rw [List.map_cons, List.map_cons, String.join_cons, String.join_cons]
    exact (h a List.mem_cons_self).append (ih fun a' ha' => h a' (List.mem_cons_of_mem _ ha'))

/-- Without a reset in the text no opening is repeated. -/
theorem reopen_of_plain (opening : List Char) {s : List Char} (h : Plain s) :
    Style.reopen opening s = s := by
  induction s with
  | nil => rfl
  | cons c s ih =>
    obtain ⟨hc, hs⟩ := plain_cons.mp h
    have hstep : Style.reopen opening (c :: s) = c :: Style.reopen opening s := by
      rw [Style.reopen.eq_def]
      split
      · rename_i heq
        exact absurd (List.head_eq_of_cons_eq heq) hc
      · rename_i heq
        cases heq
        rfl
      · contradiction
    rw [hstep, ih hs]

/-- A painted text is shown as the text. -/
theorem shows_paint (escapes : Bool) (style : Style) {text : String} (h : Plain text.toList) :
    Shows (style.paint escapes text) text := by
  rw [Style.paint]
  split
  · exact shows_plain h
  · intro rest
    rw [String.toList_ofList, List.append_assoc, List.append_assoc, Terminal.shown_opening,
      reopen_of_plain _ h, Terminal.shown_plain h, Terminal.shown_reset]

/-! ## Values -/

open Numeral in
theorem plain_of_digits {ds : List Char} (h : Digits ds) : Plain ds := fun hmem =>
  absurd (h _ hmem) (by decide)

namespace Report

open Numeral

theorem plain_showNat (n : Nat) : Plain (showNat n).toList := by
  rw [showNat, String.toList_ofList]
  exact plain_of_digits (digits_decimal n)

theorem plain_fixedPlaces (places : Nat) (x : Float) : Plain (fixedPlaces places x).toList := by
  unfold fixedPlaces
  cases classify x.toBits with
  | nan => simp
  | infinite negative => cases negative <;> simp
  | finite negative b =>
    dsimp only
    -- the digits before they are parted at the point
    generalize hpadded : List.replicate _ '0' ++ Nat.toDigits 10 _ = padded
    have hdigits : Plain padded := hpadded ▸ plain_of_digits (digits_zeroPadded _ _)
    have hwhole (k : Nat) : Plain (padded.take k) := fun h => hdigits (List.mem_of_mem_take h)
    have hpart (k : Nat) : Plain (padded.drop k) := fun h => hdigits (List.mem_of_mem_drop h)
    split <;> split <;> simp [hwhole, hpart]

theorem plain_name (l : Label) : Plain l.name.toList := by
  cases l <;> simp [Label.name]

theorem plain_gun (k : GunKind) : Plain k.name.toList := by
  cases k <;> simp [GunKind.name]

theorem plain_health (h : Health) : Plain h.name.toList := by
  cases h <;> simp [Health.name]

/-- Only the path of the file could hold an escape. -/
theorem plain_rows {r : RunReport} (h : Plain r.phoutFile.toList) (verbose : Bool) :
    ∀ row ∈ rows r verbose, Plain row.2.toList := by
  cases verbose <;> simp [rows, h, plain_showNat, plain_fixedPlaces, plain_gun]

/-! ## Reports -/

/-- A title between two lines. -/
def heading (line : Char) : String :=
  let ruled := String.ofList (List.replicate 40 line)
  ruled ++ "\n" ++ "Shooting Summary" ++ "\n" ++ ruled

/-- A label in 18 columns, and a value. -/
def rowLine (label value : String) : String :=
  "  " ++ padRight 18 (label ++ ":") ++ " " ++ value ++ "\n"

def rowLines (r : RunReport) (verbose : Bool) : String :=
  .join ((rows r verbose).map fun (l, v) => rowLine l.name v)

def interruptionLine (r : RunReport) : String :=
  if r.interrupted then "  " ++ "Run was interrupted before the ammo ran out" ++ "\n" else ""

theorem report_plain (escapes verbose : Bool) (r : RunReport) :
    Form.report ⟨false, escapes, verbose⟩ r =
      heading '=' ++ "\n" ++ rowLines r verbose ++ interruptionLine r := by
  have hhealth : Form.healthRow ⟨false, escapes, verbose⟩ r = "" := rfl
  have hheader : Form.header ⟨false, escapes, verbose⟩ "Shooting Summary" = heading '=' := rfl
  rw [Form.report, hhealth, hheader, String.append_empty]
  rfl

theorem report_unescaped (verbose : Bool) (r : RunReport) :
    Form.report ⟨true, false, verbose⟩ r =
      heading '━' ++ "\n" ++ rowLines r verbose ++ rowLine "Health" (Health.of r).name ++
        interruptionLine r := by
  have hheader : Form.header ⟨true, false, verbose⟩ "Shooting Summary" = heading '━' := rfl
  rw [Form.report, hheader]
  rfl

section

variable (escapes verbose : Bool)

theorem shows_header {title : String} (h : Plain title.toList) :
    Shows (Form.header ⟨true, escapes, verbose⟩ title)
      (Form.header ⟨true, false, verbose⟩ title) := by
  have hrule : Plain (Form.rule '━' title.length).toList := by
    simp [Form.rule, plain_replicate]
  have hline := shows_paint escapes (.ofColor .cyan) hrule
  have htitle := (hline.append shows_newline).append (shows_paint escapes .strong h)
  exact (htitle.append shows_newline).append hline

theorem shows_row {label value : String} (hlabel : Plain label.toList)
    (hvalue : Plain value.toList) (style : Style) :
    Shows (Form.row ⟨true, escapes, verbose⟩ label value style) (rowLine label value) := by
  have hpadded : Plain (padRight 18 (label ++ ":")).toList := by
    simp [padRight, hlabel, plain_replicate]
  exact (((shows_margin.append (shows_paint escapes .faint hpadded)).append shows_blank).append
    (shows_paint escapes style hvalue)).append shows_newline

theorem shows_rows {r : RunReport} (h : Plain r.phoutFile.toList) :
    Shows (.join ((rows r verbose).map fun (l, v) =>
        Form.row ⟨true, escapes, verbose⟩ l.name v (l.style v)))
      (rowLines r verbose) :=
  shows_join fun row hrow =>
    shows_row escapes verbose (plain_name row.1) (plain_rows h verbose row hrow) _

theorem shows_interruption (r : RunReport) :
    Shows (if r.interrupted then
        "  " ++ Form.paint ⟨true, escapes, verbose⟩ (.ofColor .yellow) Form.interruption ++ "\n"
      else "") (interruptionLine r) := by
  unfold interruptionLine
  split
  · have hwords : Plain Form.interruption.toList := by decide
    have htold := shows_paint escapes (.ofColor .yellow) hwords
    exact (shows_margin.append htold).append shows_newline
  · exact shows_plain plain_nil

end

/-- Both forms tell the same of a run. In colors, what is shown below the heading are the lines of
the plain report, one on the health of the run, and the one on an interruption if there was one; a
terminal without escapes gets that text. -/
theorem colored_shows_plain {r : RunReport} (h : '\x1b' ∉ r.phoutFile.toList) (verbose : Bool) :
    (∀ escapes, Form.report ⟨false, escapes, verbose⟩ r =
        heading '=' ++ "\n" ++ rowLines r verbose ++ interruptionLine r) ∧
      visible (Form.report ⟨true, true, verbose⟩ r) =
        heading '━' ++ "\n" ++ rowLines r verbose ++ rowLine "Health" (Health.of r).name ++
          interruptionLine r ∧
      Form.report ⟨true, false, verbose⟩ r = visible (Form.report ⟨true, true, verbose⟩ r) := by
  have hheader : Shows (Form.header ⟨true, true, verbose⟩ "Shooting Summary") (heading '━') :=
    shows_header true verbose (by decide)
  have hhealth : Shows (Form.healthRow ⟨true, true, verbose⟩ r)
      (rowLine "Health" (Health.of r).name) :=
    shows_row true verbose (by decide) (plain_health (Health.of r)) _
  have hshown := ((((hheader.append shows_newline).append (shows_rows true verbose h)).append
    hhealth).append (shows_interruption true verbose r)).visible_eq
  refine ⟨fun escapes => report_plain escapes verbose r, hshown, ?_⟩
  rw [report_unescaped]
  exact hshown.symm

/-- A run that was stopped after records were lost. -/
def stopped : RunReport where
  gun := .http
  elapsed := ⟨2, 500000000⟩
  shots := ⟨7, 4, 1, 2⟩
  channel := ⟨4, 3, 1, 0⟩
  writer := ⟨3, 0⟩
  phoutFile := "out/phout.txt"
  interrupted := true

theorem colored_shows_plain_stopped :
    '\x1b' ∉ stopped.phoutFile.toList ∧
      Form.report ⟨false, true, true⟩ stopped =
        heading '=' ++ "\n" ++ rowLines stopped true ++ interruptionLine stopped ∧
      visible (Form.report ⟨true, true, true⟩ stopped) =
        heading '━' ++ "\n" ++ rowLines stopped true ++ rowLine "Health" "lossy" ++
          "  Run was interrupted before the ammo ran out\n" := by
  have hpath : '\x1b' ∉ stopped.phoutFile.toList := by decide
  obtain ⟨hplain, hshown, -⟩ := colored_shows_plain hpath true
  exact ⟨hpath, hplain true, hshown⟩

end Report

end Volley
