import Volley.Phout.Reader
import Volley.Proofs.SharedFile.Reads
import Volley.Proofs.Text.Lines
import Volley.Proofs.Text.Utf8

/-!
# Reading a phout file in chunks

`Phout.Reader` takes whatever its cursor gives and hands out the measurements of the lines that are
complete. A `Tail` is a reader on a file that grows.

* `contents_append`: a file can be read in two goes if the first ends with a line feed, whatever its
  bytes are; so a cut inside a character, a line end or a number does no harm as long as the part
  behind the last line feed is kept.
* `answers_eq_contents`: however the file came to be and however it was cut into chunks, the reader
  hands out what reading it in one piece gives, and then nothing for ever.
-/
namespace Volley.Phout

open SharedFile

/-! ## Reading in one piece -/

/-- The measurements of a whole file, and how many of its lines hold none though they are not
blank. -/
def contents (bytes : List UInt8) : List Measurement × Nat :=
  parseAll (Text.Utf8.decodeLossy bytes)

/-- Nothing, or lines that are complete. -/
def WholeLines (bytes : List UInt8) : Prop := bytes = [] ∨ ∃ a, bytes = a ++ [10]

theorem parseAll_append (a b : List Char) :
    parseAll (a ++ '\n' :: b) =
      ((parseAll (a ++ ['\n'])).1 ++ (parseAll b).1,
        (parseAll (a ++ ['\n'])).2 + (parseAll b).2) := by
  simp only [parseAll, Text.lines_append a b, List.filter_append, List.map_append,
    List.filterMap_append, List.length_append]

theorem contents_append {a : List UInt8} (h : WholeLines a) (b : List UInt8) :
    contents (a ++ b) =
      ((contents a).1 ++ (contents b).1, (contents a).2 + (contents b).2) := by
  rcases h with rfl | ⟨a, rfl⟩
  · exact Prod.ext (List.nil_append _).symm (Nat.zero_add _).symm
  · obtain ⟨t, ht⟩ := Text.Utf8.decodeLossy_newline a
    rw [List.append_assoc, List.singleton_append]
    simp only [contents]
    rw [Text.Utf8.decodeLossy_append, ht, List.append_assoc, List.singleton_append,
      parseAll_append]

theorem WholeLines.append {a : List UInt8} (b : List UInt8) : WholeLines (a ++ (b ++ [10])) :=
  .inr ⟨a ++ b, (List.append_assoc a b [10]).symm⟩

/-! ## Taking chunks in -/

namespace Reader

/-- What is taken in waits for a line feed, or is handed out up to the last one. -/
theorem feed_cases (r : Reader) (bytes : List UInt8) :
    r.feed bytes = ([], { r with pending := r.pending ++ bytes }) ∨
    ∃ whole rest, r.pending ++ bytes = whole ++ 10 :: rest ∧
      r.feed bytes = ((contents (whole ++ [10])).1,
        { r with pending := rest, malformed := r.malformed + (contents (whole ++ [10])).2 }) := by
  unfold feed
  cases h : Text.cutLast? 10 (r.pending ++ bytes) with
  | none => exact .inl (by simp only [h])
  | some cut =>
    obtain ⟨whole, rest⟩ := cut
    exact .inr ⟨whole, rest, (Text.append_of_cutLast? h).1, by simp only [h]; rfl⟩

/-- Where a reader stands: it has handed out `ms`, the measurements of the complete lines before its
position, and keeps what is behind them. -/
def Has (r : Reader) (content : List UInt8) (ms : List Measurement) : Prop :=
  ∃ parsed, WholeLines parsed ∧ content.take r.cursor.position = parsed ++ r.pending ∧
    (ms, r.malformed) = contents parsed

theorem has_start (cursor : Cursor) (h : cursor.position = 0) (content : List UInt8) :
    (start cursor).Has content [] :=
  ⟨[], .inl rfl, by simp [start, h], rfl⟩

theorem Has.append {r : Reader} {content : List UInt8} {ms : List Measurement}
    (h : r.Has content ms) (hle : r.cursor.position ≤ content.length) (more : List UInt8) :
    r.Has (content ++ more) ms := by
  obtain ⟨parsed, hw, ht, hm⟩ := h
  exact ⟨parsed, hw, by rw [List.take_append_of_le_length hle, ht], hm⟩

/-- Taking in the next bytes of the file. -/
theorem Has.feed {r : Reader} {content : List UInt8} {ms : List Measurement}
    (h : r.Has content ms) {bytes : List UInt8} {cursor : Cursor}
    (hc : content.take cursor.position = content.take r.cursor.position ++ bytes) :
    ({ r with cursor }.feed bytes).2.Has content (ms ++ ({ r with cursor }.feed bytes).1) ∧
      ({ r with cursor }.feed bytes).2.cursor = cursor ∧
      ({ r with cursor }.feed bytes).2.finished = r.finished := by
  obtain ⟨parsed, hw, ht, hm⟩ := h
  rw [ht, List.append_assoc] at hc
  rcases feed_cases { r with cursor } bytes with hf | ⟨whole, rest, hs, hf⟩ <;> rw [hf]
  · exact ⟨⟨parsed, hw, hc, by rw [List.append_nil]; exact hm⟩, rfl, rfl⟩
  · refine ⟨⟨parsed ++ (whole ++ [10]), .append whole, ?_, ?_⟩, rfl, rfl⟩
    · simp only at hs ⊢
      rw [hc, hs]
      simp
    · rw [contents_append hw, ← hm]

/-- At the end of the file the rest is handed out, complete or not. -/
theorem Has.conclude {r : Reader} {content : List UInt8} {ms : List Measurement}
    (h : r.Has content ms) (hend : content.take r.cursor.position = content) :
    r.conclude.2.finished = true ∧
      (ms ++ r.conclude.1.getD [], r.conclude.2.malformed) = contents content := by
  obtain ⟨parsed, hw, ht, hm⟩ := h
  rw [hend] at ht
  unfold Reader.conclude
  by_cases hp : r.pending = []
  · rw [hp, List.append_nil] at ht
    rw [if_pos hp, ht]
    exact ⟨rfl, by rw [Option.getD_none, List.append_nil]; exact hm⟩
  · rw [if_neg hp, ht, contents_append hw, ← hm]
    exact ⟨rfl, rfl⟩

/-- The bytes that the next chunk holds. -/
def coming (r : Reader) (f : SharedFile) : List UInt8 :=
  bytesAt f.bytes r.cursor.position (.bytes r.cursor.cacheSize)

/-- The reader with its cursor behind the next chunk. -/
def moved (r : Reader) (f : SharedFile) : Reader :=
  { r with cursor := { r.cursor with position := r.cursor.position + (r.coming f).length } }

/-- A call fails and changes nothing of the reader, or takes the next chunk in. -/
theorem next_cases (r : Reader) (f : SharedFile) (h : r.finished = false) :
    ∃ g, Kept f g ∧
      ((∃ e, r.next f = (.error e, r, g)) ∨
        r.next f =
          (.ok ((r.moved f).take (chunkOf f.stopped (r.coming f))).1,
            ((r.moved f).take (chunkOf f.stopped (r.coming f))).2, g)) := by
  obtain ⟨g, hg, ⟨e, hr⟩ | hr⟩ :=
    r.cursor.readAfter_cases f f.stopped (.bytes r.cursor.cacheSize)
  all_goals
    refine ⟨g, hg, ?_⟩
    rw [next, if_neg (by rw [h]; exact Bool.false_ne_true)]
    simp only [Cursor.read, Cursor.readAs, Option.getD_none, hr]
  · exact .inl ⟨e, rfl⟩
  · exact .inr rfl

theorem moved_of_end {r : Reader} {f : SharedFile} (h : r.coming f = []) : r.moved f = r := by
  rw [moved, h]
  rfl

theorem next_isOk {r : Reader} {f : SharedFile} (free : f.isHeld = false)
    (h : r.finished = false)
    (hfault : f.fault? r.cursor.position (.bytes r.cursor.cacheSize) = none) :
    ∃ ms, (r.next f).1 = .ok ms := by
  obtain ⟨chunk, hchunk⟩ := Cursor.readAfter_isOk free hfault f.stopped
  rw [next, if_neg (by rw [h]; exact Bool.false_ne_true)]
  simp only [Cursor.read, Cursor.readAs, Option.getD_none]
  generalize r.cursor.readAfter f f.stopped (.bytes r.cursor.cacheSize) = a at hchunk ⊢
  obtain ⟨answer, cursor, g⟩ := a
  subst hchunk
  exact ⟨_, rfl⟩

theorem take_cursor (r : Reader) (chunk : Chunk) : (r.take chunk).2.cursor = r.cursor := by
  cases chunk with
  | data bytes =>
    rcases feed_cases r bytes with hf | ⟨whole, rest, -, hf⟩ <;>
    · simp only [take, hf]
  | empty => rfl
  | finished =>
    rw [take, Reader.conclude]
    split <;> rfl

theorem next_of_finished {r : Reader} (f : SharedFile) (h : r.finished = true) :
    r.next f = (.ok none, r, f) := by
  rw [next, if_pos h]

end Reader

/-! ## A reader on a growing file -/

structure Tail where
  file : SharedFile
  reader : Reader
  /-- What its calls answered, in order. -/
  answers : List (Except Fault (Option (List Measurement)))

namespace Tail

inductive Event where
  | append (bytes : List UInt8)
  | stop
  | next
  deriving DecidableEq, Repr

/-- The bytes that an event puts at the end of the file. -/
def Event.added : Event → List UInt8
  | .append bytes => bytes
  | .stop => []
  | .next => []

def start (f : SharedFile) (cacheSize : Option Nat) : Tail :=
  ⟨f, .start (Cursor.ofFile f cacheSize), []⟩

def step (t : Tail) : Event → Tail
  | .append bytes => { t with file := t.file.append bytes }
  | .stop => { t with file := t.file.stop }
  | .next =>
    let (answer, reader, file) := t.reader.next t.file
    ⟨file, reader, t.answers ++ [answer]⟩

def run (t : Tail) (es : List Event) : Tail := es.foldl step t

theorem run_append (t : Tail) (es later : List Event) :
    run t (es ++ later) = run (run t es) later := List.foldl_append

theorem run_next_succ (t : Tail) (n : Nat) :
    run t (List.replicate (n + 1) .next) = run (step t .next) (List.replicate n .next) := by
  rw [List.replicate_succ]
  rfl

/-- Before the end: the answers are `parts`, which hold the lines before the cursor. -/
structure Reading (t : Tail) (parts : List (List Measurement)) : Prop where
  live : t.reader.finished = false
  cache : 1 ≤ t.reader.cursor.cacheSize
  inside : t.reader.cursor.position ≤ t.file.bytes.length
  has : t.reader.Has t.file.bytes parts.flatten
  answers : t.answers = parts.map fun ms => .ok (some ms)

/-- At the end: the answers are `parts`, which hold all of the file, and then `n` times none. -/
structure Ended (content : List UInt8) (t : Tail) (parts : List (List Measurement)) (n : Nat) :
    Prop where
  finished : t.reader.finished = true
  answers : t.answers = parts.map (fun ms => .ok (some ms)) ++ List.replicate n (.ok none)
  whole : (parts.flatten, t.reader.malformed) = contents content

theorem reading_start (f : SharedFile) (cacheSize : Option Nat) :
    Reading (start f cacheSize) [] :=
  ⟨rfl, Nat.le_max_right _ _, Nat.zero_le _, Reader.has_start _ rfl _, rfl⟩

/-- How many bytes are still to be read. -/
def remaining (t : Tail) : Nat := t.file.bytes.length - t.reader.cursor.position

/-- What a call that takes the next chunk in leaves behind. -/
def after (t : Tail) (g : SharedFile) : Tail :=
  let taken := (t.reader.moved t.file).take (chunkOf t.file.stopped (t.reader.coming t.file))
  ⟨g, taken.2, t.answers ++ [.ok taken.1]⟩

theorem step_next {t : Tail} (h : t.reader.finished = false)
    (hok : ∀ a ∈ (step t .next).answers, ∃ ms, a = .ok ms) :
    ∃ g, Kept t.file g ∧ step t .next = t.after g := by
  obtain ⟨g, hg, ⟨e, hr⟩ | hr⟩ := t.reader.next_cases t.file h
  · obtain ⟨ms, hm⟩ := hok (.error e) (by simp [step, hr])
    cases hm
  · exact ⟨g, hg, by simp only [step, hr, after]⟩

theorem step_of_finished {t : Tail} (h : t.reader.finished = true) :
    step t .next = { t with answers := t.answers ++ [.ok none] } := by
  simp only [step, Reader.next_of_finished t.file h]

section Step
variable {t : Tail} {parts : List (List Measurement)} (h : Reading t parts) {g : SharedFile}

/-- The answers after one more that hands `ms` out. -/
theorem answers_snoc {t : Tail} (ha : t.answers = parts.map fun ms => .ok (some ms))
    (ms : List Measurement) :
    t.answers ++ [.ok (some ms)] = (parts ++ [ms]).map fun ms => .ok (some ms) := by
  rw [List.map_append, ← ha]
  rfl

theorem flatten_snoc (ms : List Measurement) : (parts ++ [ms]).flatten = parts.flatten ++ ms := by
  rw [List.flatten_append, List.flatten_singleton]

include h in
theorem coming_eq_nil : t.reader.coming t.file = [] ↔
    t.file.bytes.length ≤ t.reader.cursor.position :=
  bytesAt_eq_nil fun e => by
    have := ReadMode.bytes.inj e
    have := h.cache
    omega

include h in
/-- A chunk with bytes brings the reader closer to the end. -/
theorem after_data (hg : Kept t.file g) (hc : t.reader.coming t.file ≠ []) :
    ∃ ms, Reading (t.after g) (parts ++ [ms]) ∧ (t.after g).remaining < t.remaining := by
  have hlt := Nat.lt_of_not_le fun hle => hc ((coming_eq_nil h).mpr hle)
  have hpos := List.length_pos_iff.mpr hc
  have htake : t.file.bytes.take (t.reader.moved t.file).cursor.position =
      t.file.bytes.take t.reader.cursor.position ++ t.reader.coming t.file := take_bytesAt _ _ _
  obtain ⟨hhas, hcur, hfin⟩ := h.has.feed htake
  have hplace : ((t.reader.moved t.file).feed (t.reader.coming t.file)).2.cursor.position =
      t.reader.cursor.position + (t.reader.coming t.file).length := congrArg Cursor.position hcur
  have hafter : t.after g = ⟨g, ((t.reader.moved t.file).feed (t.reader.coming t.file)).2,
      t.answers ++ [.ok (some ((t.reader.moved t.file).feed (t.reader.coming t.file)).1)]⟩ := by
    simp only [after, chunkOf, if_pos hc]
    rfl
  rw [hafter]
  refine ⟨_, ⟨hfin.trans h.live, ?_, ?_, ?_, answers_snoc h.answers _⟩, ?_⟩
  · exact Nat.le_trans h.cache (Nat.le_of_eq (congrArg Cursor.cacheSize hcur).symm)
  · rw [hg.bytes, hplace]
    exact add_length_bytesAt_le _ _ h.inside
  · rw [hg.bytes, flatten_snoc]
    exact hhas
  · simp only [remaining, hg.bytes, hplace]
    omega

include h in
/-- At the end of the file, before the stop, nothing happens. -/
theorem after_waiting (hg : Kept t.file g) (hc : t.reader.coming t.file = [])
    (hs : t.file.stopped = false) :
    Reading (t.after g) (parts ++ [[]]) := by
  have hafter : t.after g = ⟨g, t.reader, t.answers ++ [.ok (some [])]⟩ := by
    simp only [after, Reader.moved_of_end hc, hc, hs]
    rfl
  rw [hafter]
  refine ⟨h.live, h.cache, ?_, ?_, answers_snoc h.answers []⟩
  · rw [hg.bytes]
    exact h.inside
  · rw [hg.bytes, flatten_snoc, List.append_nil]
    exact h.has

include h in
/-- At the end of the file, after the stop, the rest is handed out, if there is any. -/
theorem after_ending (hc : t.reader.coming t.file = []) (hs : t.file.stopped = true) :
    (∃ ms, Ended t.file.bytes (t.after g) (parts ++ [ms]) 0) ∨
      Ended t.file.bytes (t.after g) parts 1 := by
  have hafter : t.after g =
      ⟨g, t.reader.conclude.2, t.answers ++ [.ok t.reader.conclude.1]⟩ := by
    simp only [after, Reader.moved_of_end hc, hc, hs]
    rfl
  obtain ⟨hfin, hwhole⟩ :=
    h.has.conclude (List.take_of_length_le ((coming_eq_nil h).mp hc))
  rw [hafter]
  cases hms : t.reader.conclude.1 with
  | some ms =>
    rw [hms] at hwhole
    refine .inl ⟨ms, hfin, ?_, ?_⟩
    · rw [List.replicate_zero, List.append_nil]
      exact answers_snoc h.answers ms
    · rw [flatten_snoc]
      exact hwhole
  | none =>
    rw [hms] at hwhole
    refine .inr ⟨hfin, ?_, ?_⟩
    · rw [← h.answers]
      rfl
    · rw [← hwhole, Option.getD_none, List.append_nil]

end Step

/-! ## Runs -/

section Ended
variable {content : List UInt8} {t : Tail} {parts : List (List Measurement)} {n : Nat}

theorem ended_next (h : Ended content t parts n) :
    Ended content (step t .next) parts (n + 1) := by
  rw [step_of_finished h.finished]
  refine ⟨h.finished, ?_, h.whole⟩
  rw [h.answers, List.append_assoc, List.replicate_succ']

theorem ended_run (h : Ended content t parts n) (k : Nat) :
    Ended content (run t (List.replicate k .next)) parts (n + k) := by
  induction k generalizing t n with
  | zero => exact h
  | succ k ih =>
    rw [run_next_succ, show n + (k + 1) = n + 1 + k by omega]
    exact ih (ended_next h)

end Ended

theorem answers_step (t : Tail) (e : Event) : ∃ more, (step t e).answers = t.answers ++ more := by
  cases e with
  | append bytes => exact ⟨[], (List.append_nil _).symm⟩
  | stop => exact ⟨[], (List.append_nil _).symm⟩
  | next => exact ⟨_, rfl⟩

theorem answers_run (es : List Event) (t : Tail) :
    ∃ more, (run t es).answers = t.answers ++ more := by
  induction es generalizing t with
  | nil => exact ⟨[], (List.append_nil _).symm⟩
  | cons e es ih =>
    obtain ⟨more, h⟩ := answers_step t e
    obtain ⟨more', h'⟩ := ih (step t e)
    refine ⟨more ++ more', ?_⟩
    show (run (step t e) es).answers = _
    rw [h', h, List.append_assoc]

/-- No call of a run failed. -/
def Smooth (t : Tail) : Prop := ∀ a ∈ t.answers, ∃ ms, a = .ok ms

theorem Smooth.before (es : List Event) {t : Tail} (h : Smooth (run t es)) : Smooth t := by
  obtain ⟨more, hm⟩ := answers_run es t
  exact fun a ha => h a (by rw [hm]; exact List.mem_append_left _ ha)

/-- After the stop, calls come to the end: each brings the reader closer to it. -/
theorem reading_ends (m : Nat) {t : Tail} {parts : List (List Measurement)} (h : Reading t parts)
    (hs : t.file.stopped = true) (hm : t.remaining ≤ m)
    (hok : ∀ n, Smooth (run t (List.replicate n .next))) :
    ∃ n parts', Ended t.file.bytes (run t (List.replicate (n + 1) .next)) parts' 1 := by
  induction m generalizing t parts with
  | zero => ?_
  | succ m ih => ?_
  all_goals
    obtain ⟨g, hg, hstep⟩ := step_next h.live (hok 1)
    by_cases hc : t.reader.coming t.file = []
    · rcases after_ending h hc hs with ⟨ms, he⟩ | he
      · refine ⟨1, parts ++ [ms], ?_⟩
        rw [run_next_succ, hstep]
        exact ended_run he 1
      · refine ⟨0, parts, ?_⟩
        rw [run_next_succ, hstep]
        exact he
    obtain ⟨ms, hr, hlt⟩ := after_data h hg hc
  · omega
  · have hok' : ∀ n, Smooth (run (t.after g) (List.replicate n .next)) := by
      intro n
      rw [← hstep, ← run_next_succ]
      exact hok (n + 1)
    obtain ⟨n, parts', he⟩ := ih hr (hg.stopped.trans hs) (by omega) hok'
    refine ⟨n + 1, parts', ?_⟩
    rw [run_next_succ, hstep, ← hg.bytes]
    exact he

theorem content_append {f : SharedFile} {content : List UInt8} (h : f.content = some content)
    (more : List UInt8) : (f.append more).content = some (content ++ more) := by
  simp only [SharedFile.append, h, Option.map_some]

theorem bytes_of_content {f : SharedFile} {content : List UInt8} (h : f.content = some content) :
    f.bytes = content := by
  rw [SharedFile.bytes, h]
  rfl

/-- Before the stop, calls and appends in any order leave the reader where its answers say. -/
theorem reading_run (es : List Event) {t : Tail} {parts : List (List Measurement)}
    {content : List UInt8} (h : Reading t parts) (hc : t.file.content = some content)
    (hs : t.file.stopped = false) (hes : .stop ∉ es) (hok : Smooth (run t es)) :
    ∃ parts', Reading (run t es) parts' ∧
      (run t es).file.content = some (content ++ es.flatMap Event.added) := by
  induction es generalizing t parts content with
  | nil => exact ⟨parts, h, by rw [List.flatMap_nil, List.append_nil]; exact hc⟩
  | cons e es ih =>
    rw [List.mem_cons, not_or] at hes
    obtain ⟨hne, hes⟩ := hes
    suffices hstep : ∃ parts', Reading (step t e) parts' ∧ (step t e).file.stopped = false ∧
        (step t e).file.content = some (content ++ e.added) by
      obtain ⟨parts', hr, hs', hc'⟩ := hstep
      obtain ⟨parts'', hr', hc''⟩ := ih hr hc' hs' hes hok
      exact ⟨parts'', hr', by rw [List.flatMap_cons, ← List.append_assoc]; exact hc''⟩
    cases e with
    | append bytes =>
      have happ := content_append hc bytes
      refine ⟨parts, ⟨h.live, h.cache, ?_, ?_, h.answers⟩, hs, happ⟩
      · have := h.inside
        rw [bytes_of_content hc] at this
        show _ ≤ (t.file.append bytes).bytes.length
        rw [bytes_of_content happ, List.length_append]
        exact Nat.le_trans this (Nat.le_add_right _ _)
      · show t.reader.Has (t.file.append bytes).bytes parts.flatten
        rw [bytes_of_content happ, ← bytes_of_content hc]
        exact h.has.append h.inside bytes
    | stop => exact absurd rfl hne
    | next =>
      obtain ⟨g, hg, hn⟩ := step_next h.live (Smooth.before es hok)
      rw [hn, Event.added, List.append_nil]
      by_cases hnil : t.reader.coming t.file = []
      · exact ⟨_, after_waiting h hg hnil hs, hg.stopped.trans hs, hg.content.trans hc⟩
      · obtain ⟨ms, hr, -⟩ := after_data h hg hnil
        exact ⟨_, hr, hg.stopped.trans hs, hg.content.trans hc⟩

/-! ## Runs without errors -/

/-- Nothing stands in the way of the reads while the file grows by at most `room` bytes. -/
structure Quiet (t : Tail) (room : Nat) : Prop where
  isOpen : t.file.isOpen = true
  free : t.file.isHeld = false
  isFile : ∃ content, t.file.content = some content
  small : t.file.bytes.length + room + 32 < positionLimit
  inside : t.reader.cursor.position ≤ t.file.bytes.length
  smooth : Smooth t

theorem quiet_start {f : SharedFile} {content : List UInt8} (hopen : f.isOpen = true)
    (hfree : f.isHeld = false) (hc : f.content = some content) {room : Nat}
    (hsmall : content.length + room + 32 < positionLimit) (cacheSize : Option Nat) :
    Quiet (start f cacheSize) room := by
  refine ⟨hopen, hfree, ⟨content, hc⟩, ?_, Nat.zero_le _, fun _ ha => nomatch ha⟩
  show f.bytes.length + room + 32 < positionLimit
  rw [bytes_of_content hc]
  exact hsmall

/-- A call has an answer. -/
theorem Quiet.smooth_next {t : Tail} {room : Nat} (h : Quiet t room) : Smooth (step t .next) := by
  suffices hms : ∃ ms, (t.reader.next t.file).1 = .ok ms by
    intro a ha
    rcases List.mem_append.mp ha with ha | ha
    · exact h.smooth a ha
    · rw [List.mem_singleton.mp ha]
      exact hms
  cases hfin : t.reader.finished with
  | true => exact ⟨none, by rw [Reader.next_of_finished t.file hfin]⟩
  | false =>
    obtain ⟨content, hc⟩ := h.isFile
    have hinside := h.inside
    have hsmall := h.small
    have hfirst : firstRequest (.bytes t.reader.cursor.cacheSize) ≤ 32 := Nat.min_le_right _ _
    exact Reader.next_isOk h.free hfin (fault?_eq_none h.isOpen hc (by omega))

theorem Quiet.next {t : Tail} {room : Nat} (h : Quiet t room) : Quiet (step t .next) room := by
  have hsmooth := h.smooth_next
  cases hfin : t.reader.finished with
  | true =>
    rw [step_of_finished hfin] at hsmooth ⊢
    exact ⟨h.isOpen, h.free, h.isFile, h.small, h.inside, hsmooth⟩
  | false =>
    obtain ⟨g, hg, hstep⟩ := step_next hfin hsmooth
    obtain ⟨o, rfl⟩ := hg.beside h.free
    rw [hstep] at hsmooth ⊢
    refine ⟨h.isOpen, h.free, h.isFile, h.small, ?_, hsmooth⟩
    show (Reader.take _ _).2.cursor.position ≤ t.file.bytes.length
    rw [Reader.take_cursor]
    exact add_length_bytesAt_le _ _ h.inside

theorem Quiet.append {t : Tail} {bytes : List UInt8} {room : Nat}
    (h : Quiet t (bytes.length + room)) : Quiet (step t (.append bytes)) room := by
  obtain ⟨content, hc⟩ := h.isFile
  have happ := content_append hc bytes
  have hlength : (step t (.append bytes)).file.bytes.length =
      t.file.bytes.length + bytes.length := by
    rw [show (step t (.append bytes)).file = t.file.append bytes from rfl,
      bytes_of_content happ, bytes_of_content hc, List.length_append]
  have hsmall := h.small
  have hinside := h.inside
  refine ⟨h.isOpen, h.free, ⟨_, happ⟩, ?_, ?_, h.smooth⟩
  · omega
  · rw [hlength]
    exact Nat.le_trans hinside (Nat.le_add_right _ _)

theorem quiet_run (es : List Event) {t : Tail} {room : Nat}
    (h : Quiet t ((es.flatMap Event.added).length + room)) : Quiet (run t es) room := by
  induction es generalizing t with
  | nil =>
    rw [List.flatMap_nil, List.length_nil, Nat.zero_add] at h
    exact h
  | cons e es ih =>
    rw [List.flatMap_cons, List.length_append, Nat.add_assoc] at h
    refine ih (t := step t e) ?_
    cases e with
    | append bytes => exact h.append
    | stop =>
      rw [Event.added, List.length_nil, Nat.zero_add] at h
      exact ⟨h.isOpen, h.free, h.isFile, h.small, h.inside, h.smooth⟩
    | next =>
      rw [Event.added, List.length_nil, Nat.zero_add] at h
      exact h.next

theorem added_calls (n : Nat) : (List.replicate n .next).flatMap Event.added = [] := by
  induction n with
  | zero => rfl
  | succ n ih => rw [List.replicate_succ, List.flatMap_cons, ih]; rfl

/-- The calls on a file that is open, free and not too long do not fail. -/
theorem smooth_calls {f : SharedFile} {content : List UInt8} (hopen : f.isOpen = true)
    (hfree : f.isHeld = false) (hc : f.content = some content) (es : List Event)
    (hsmall : content.length + (es.flatMap Event.added).length + 32 < positionLimit)
    (cacheSize : Option Nat) (n : Nat) :
    Smooth (run (start f cacheSize) (es ++ .stop :: List.replicate n .next)) := by
  have hadded : (es ++ Event.stop :: List.replicate n .next).flatMap Event.added =
      es.flatMap Event.added := by
    rw [List.flatMap_append, List.flatMap_cons, added_calls]
    exact List.append_nil _
  have h : Quiet (start f cacheSize)
      (((es ++ Event.stop :: List.replicate n .next).flatMap Event.added).length + 0) := by
    rw [hadded]
    exact quiet_start hopen hfree hc hsmall cacheSize
  exact (quiet_run _ h).smooth

theorem Reading.stop {t : Tail} {parts : List (List Measurement)} (h : Reading t parts) :
    Reading (step t .stop) parts :=
  ⟨h.live, h.cache, h.inside, h.has, h.answers⟩

/-- When the producer has stopped, calls hand out all of the file and then none for ever. -/
theorem Reading.concludes {t : Tail} {parts : List (List Measurement)} (h : Reading t parts)
    (hok : ∀ n, Smooth (run (step t .stop) (List.replicate n .next))) :
    ∃ n, ∃ parts' : List (List Measurement), parts'.flatten = (contents t.file.bytes).1 ∧
      ∀ k, (run (step t .stop) (List.replicate (n + 1 + k) .next)).answers =
          parts'.map (fun ms => .ok (some ms)) ++ List.replicate (1 + k) (.ok none) ∧
        (run (step t .stop) (List.replicate (n + 1 + k) .next)).reader.malformed =
          (contents t.file.bytes).2 := by
  obtain ⟨n, parts', he⟩ := reading_ends _ h.stop rfl (Nat.le_refl _) hok
  refine ⟨n, parts', congrArg Prod.fst he.whole, fun k => ?_⟩
  have hk := ended_run he k
  rw [← List.replicate_append_replicate, run_append]
  exact ⟨hk.answers, congrArg Prod.snd hk.whole⟩

/-- **The reader does not depend on how the file is cut.** However a file grows between the calls,
the calls hand out, part by part, what reading it in one piece gives, the last line also when it is
not ended, and as many malformed lines are counted; only then comes none, and it comes for ever. -/
theorem answers_eq_contents (f : SharedFile) (content : List UInt8)
    (hc : f.content = some content) (hs : f.stopped = false) (cacheSize : Option Nat)
    (es : List Event) (hes : .stop ∉ es)
    (hok : ∀ n, Smooth (run (start f cacheSize) (es ++ .stop :: List.replicate n .next))) :
    ∃ n, ∃ parts : List (List Measurement),
      parts.flatten = (contents (content ++ es.flatMap Event.added)).1 ∧
      ∀ k, (run (start f cacheSize) (es ++ .stop :: List.replicate (n + 1 + k) .next)).answers =
          parts.map (fun ms => .ok (some ms)) ++ List.replicate (1 + k) (.ok none) ∧
        (run (start f cacheSize)
            (es ++ .stop :: List.replicate (n + 1 + k) .next)).reader.malformed =
          (contents (content ++ es.flatMap Event.added)).2 := by
  have hrun (n : Nat) : run (start f cacheSize) (es ++ .stop :: List.replicate n .next) =
      run (step (run (start f cacheSize) es) .stop) (List.replicate n .next) := run_append _ _ _
  obtain ⟨parts, hr, hcontent⟩ := reading_run es (reading_start f cacheSize) hc hs hes
    (Smooth.before [.stop] (by rw [← run_append]; exact hok 0))
  simp only [hrun] at hok ⊢
  rw [← bytes_of_content hcontent]
  exact hr.concludes hok

/-- An empty file that nobody else holds. -/
def emptyFile : SharedFile :=
  { path := "phout.txt", content := some [], offset := 0, isOpen := true, stopped := false,
    isHeld := false, contention := 0, cacheSize := 4, policy := .standard,
    chance := .constant 0 }

/-- A line that is cut inside a character and before its end, and one that holds no measurement and
is not ended. -/
def cutLines : List Event :=
  [.append [48, 46, 53, 9, 195], .next, .append [169, 35, 55, 9, 49, 9, 50, 9, 51, 9, 52, 9, 53],
    .next, .next, .append [9, 54, 9, 55, 9, 56, 9, 48, 9, 45, 49, 13], .next, .append [10, 120]]

/-- The measurement that `cutLines` writes. -/
def shot : Measurement :=
  { connectTime := 2, sendTime := 3, latency := 4, receiveTime := 5, intervalEvent := 6,
    sizeOut := 7, sizeIn := 8, netCode := 0, protoCode := -1, sentAt := ⟨0, 500000000⟩,
    tag := "é", intervalReal := 1 }

theorem answers_eq_contents_cutLines :
    (emptyFile.content = some [] ∧ emptyFile.stopped = false ∧ .stop ∉ cutLines ∧
      ∀ n, Smooth
        (run (start emptyFile (some 3)) (cutLines ++ Event.stop :: List.replicate n .next))) ∧
    ∃ n, ∃ parts : List (List Measurement), parts.flatten = [shot] ∧
      ∀ k, (run (start emptyFile (some 3))
            (cutLines ++ Event.stop :: List.replicate (n + 1 + k) .next)).answers =
          parts.map (fun ms => .ok (some ms)) ++ List.replicate (1 + k) (.ok none) ∧
        (run (start emptyFile (some 3))
            (cutLines ++ Event.stop :: List.replicate (n + 1 + k) .next)).reader.malformed = 1 := by
  have hes : .stop ∉ cutLines := by decide
  have hok : ∀ n, Smooth
      (run (start emptyFile (some 3)) (cutLines ++ Event.stop :: List.replicate n .next)) :=
    smooth_calls rfl rfl rfl cutLines (by decide) (some 3)
  have hwhole : contents ([] ++ cutLines.flatMap Event.added) = ([shot], 1) := by decide +kernel
  obtain ⟨n, parts, hparts, hall⟩ :=
    answers_eq_contents emptyFile [] rfl rfl (some 3) cutLines hes hok
  rw [hwhole] at hparts hall
  exact ⟨⟨rfl, rfl, hes, hok⟩, n, parts, hparts, hall⟩

end Tail

end Volley.Phout
