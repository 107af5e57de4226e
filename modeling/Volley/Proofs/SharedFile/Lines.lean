import Volley.Proofs.SharedFile.Finish
import Volley.Text.Split

/-!
# Reading line by line

A cursor that asks for a line gets the bytes through the next line feed, or all that there are when
none follows. The read behind it looks ahead by whole blocks; what it found behind the line feed is
given up, and the next read seeks back to where the cursor is. So lines can be asked for in mid-line,
between reads of other sizes, and while the file grows and others move the handle.

* `throughLine_bounds`: a line feed ends a line, and a line without one ends the text.
* `pieces_eq`: the first piece of a text is its first line, the others are those of the rest.
* `lines_play`: asking for lines on a file that does not change takes the pieces one by one.
* `readLine_keeps_lines`: what a line holds, at any point of any run, and which line it is.
-/
namespace Volley.Cursor

open SharedFile
open Sharing (Call)

/-! ## Lines of bytes -/

/-- A line feed is the last byte of a line; a line without one is all the text. -/
theorem throughLine_bounds (s : List UInt8) :
    10 ∉ (throughLine s).dropLast ∧ (10 ∉ throughLine s → throughLine s = s) := by
  induction s with
  | nil => exact ⟨List.not_mem_nil, fun _ => rfl⟩
  | cons b r ih =>
    rw [throughLine]
    by_cases hb : b = 10
    · rw [if_pos hb, hb]
      exact ⟨List.not_mem_nil, fun h => absurd List.mem_cons_self h⟩
    · rw [if_neg hb]
      obtain ⟨hlast, hwhole⟩ := ih
      constructor
      · cases hr : throughLine r with
        | nil => exact List.not_mem_nil
        | cons d t =>
          rw [hr] at hlast
          rw [List.dropLast_cons_of_ne_nil (List.cons_ne_nil d t), List.mem_cons, not_or]
          exact ⟨Ne.symm hb, hlast⟩
      · intro h
        rw [List.mem_cons, not_or] at h
        rw [hwhole h.2]

/-- The pieces of a text behind each line feed. -/
abbrev pieces (s : List UInt8) : List (List UInt8) := Text.splitAfter (· == 10) s

theorem pieces_eq {s : List UInt8} (h : s ≠ []) :
    pieces s = throughLine s :: pieces (s.drop (throughLine s).length) := by
  induction s with
  | nil => exact absurd rfl h
  | cons b r ih =>
    rw [pieces, Text.splitAfter, throughLine]
    by_cases hb : b = 10
    · simp [hb]
    · have hbeq : (b == 10) = false := by rw [beq_eq_false_iff_ne]; exact hb
      rw [hbeq, if_neg hb]
      cases r with
      | nil => rfl
      | cons d t =>
        have ih := ih (List.cons_ne_nil d t)
        rw [pieces] at ih
        rw [ih]
        rfl

/-! ## Runs -/

/-- What can happen to a cursor and its file. -/
inductive Turn where
  | append (bytes : List UInt8)
  | stop
  /-- Others read, and leave the handle at some offset. -/
  | elsewhere (offset : Nat)
  | ask (call : Call)
  deriving DecidableEq, Repr

def turn (c : Cursor) (f : SharedFile) : Turn → Cursor × SharedFile
  | .append bytes => (c, f.append bytes)
  | .stop => (c, f.stop)
  | .elsewhere offset => (c, f.seek offset)
  | .ask call => (c.ask f call).2

def play (c : Cursor) (f : SharedFile) : List Turn → Cursor × SharedFile
  | [] => (c, f)
  | t :: ts => (c.turn f t).1.play (c.turn f t).2 ts

/-- The file stays as it is, and only lines are asked for. -/
def LinesOnly (ts : List Turn) : Prop :=
  ∀ t ∈ ts, t = .stop ∨ t = .ask .readLine ∨ ∃ offset, t = .elsewhere offset

/-- The chunk of a piece, or what is said when there is none. -/
def chunkOfPiece (stopped : Bool) : Option (List UInt8) → Chunk
  | some bytes => .data bytes
  | none => if stopped then .finished else .empty

/-! ## Calls -/

/-- A call that gives data has read them at the cursor and moved it behind them. -/
theorem ask_data {c : Cursor} {f : SharedFile} {call : Call} {bytes : List UInt8}
    (h : (c.ask f call).1 = .ok (.data bytes)) :
    bytes = bytesAt f.bytes c.position (call.mode c) ∧ bytes ≠ [] ∧
      (c.ask f call).2.1.position = c.position + bytes.length := by
  rw [ask_eq] at h ⊢
  obtain ⟨g, -, ⟨e, hr⟩ | hr⟩ := c.readAfter_cases f f.stopped (call.mode c)
  · rw [hr] at h
    cases h
  · rw [hr] at h ⊢
    have hchunk := Except.ok.inj h
    have hpayload := congrArg (fun chunk => Sharing.Task.payload (.ok chunk)) hchunk
    simp only [Sharing.payload_chunkOf] at hpayload
    have hbytes : bytesAt f.bytes c.position (call.mode c) = bytes := hpayload
    refine ⟨hbytes.symm, ?_, by rw [hbytes]⟩
    rintro rfl
    exact Sharing.chunkOf_ne_data_nil _ _ hchunk

theorem chunkOf_throughLine (stopped : Bool) (s : List UInt8) :
    chunkOf stopped (throughLine s) = chunkOfPiece stopped (pieces s).head? := by
  by_cases h : s = []
  · subst h
    rfl
  · have hne : throughLine s ≠ [] := fun e => h (throughLine_eq_nil.mp e)
    rw [pieces_eq h, List.head?_cons, chunkOf, if_pos hne]
    rfl

/-- Behind a line the pieces are those of the rest. -/
theorem pieces_behind (content : List UInt8) (position : Nat) :
    pieces (content.drop (position + (throughLine (content.drop position)).length)) =
      (pieces (content.drop position)).tail := by
  rw [← List.drop_drop]
  by_cases h : content.drop position = []
  · rw [h]
    rfl
  · rw [pieces_eq h, List.tail_cons]

/-- Near the largest position a line is refused. -/
theorem ask_of_far {c : Cursor} {f : SharedFile} {content : List UInt8} (h : Ready f content)
    (hfar : positionLimit ≤ c.position + lineBlock) :
    ∃ e, c.ask f .readLine = (.error e, c, f) := by
  have hfault : f.fault? c.position .line = some (.file FileFault.invalidArgument.message) := by
    have hrefused : f.refusal? c.position .line = some .invalidArgument := by
      have hsome : ¬ firstRequest .line = 0 := by decide
      have hlimit : positionLimit ≤ c.position + firstRequest .line := hfar
      unfold refusal?
      dsimp only
      by_cases hp : positionLimit ≤ c.position
      · rw [if_pos hp]
      · rw [if_neg hp, if_neg hsome, if_pos hlimit]
    unfold fault?
    rw [h.isOpen, hrefused]
    rfl
  have hmode : Call.readLine.mode c = .line := rfl
  refine ⟨.file FileFault.invalidArgument.message, ?_⟩
  rw [ask_eq, hmode, readAfter, readAfter_of_free h.free, readMoving, hfault]

/-- The cursor has taken so many of the pieces, or the system has refused to go on. -/
def Taken (c : Cursor) (content : List UInt8) (all : List (List UInt8)) (n : Nat) : Prop :=
  positionLimit ≤ c.position + lineBlock ∨ pieces (content.drop c.position) = all.drop n

section Step
variable {c : Cursor} {f : SharedFile} {content : List UInt8} {all : List (List UInt8)} {n : Nat}

/-- The next line is the next piece, and asking for it takes it. -/
theorem taken_ask (h : Ready f content) (ht : c.Taken content all n) :
    c.Answered (c.ask f .readLine).1 (chunkOfPiece f.stopped all[n]?) ∧
      Beside f (c.ask f .readLine).2.2 ∧ (c.ask f .readLine).2.1.Taken content all (n + 1) := by
  by_cases hfar : positionLimit ≤ c.position + lineBlock
  · obtain ⟨e, hr⟩ := ask_of_far h hfar
    rw [hr]
    exact ⟨.inr ⟨hfar, e, rfl⟩, .refl f, .inl hfar⟩
  · have hpieces := ht.resolve_left hfar
    obtain ⟨g, hg, ⟨hfar', -⟩ | hr⟩ := c.ask_of_ready h .readLine
    · exact absurd hfar' hfar
    · have hline : bytesAt content c.position (Call.readLine.mode c) =
          throughLine (content.drop c.position) := rfl
      rw [hline, chunkOf_throughLine, hpieces, List.head?_drop] at hr
      rw [hr]
      refine ⟨.inl rfl, hg, .inr ?_⟩
      show pieces (content.drop (c.position + _)) = _
      rw [pieces_behind, hpieces, List.tail_drop]

end Step

/-- While only lines are asked for, each call takes one piece. -/
theorem lines_play {content : List UInt8} {all : List (List UInt8)} (ts : List Turn)
    (hts : LinesOnly ts) {c : Cursor} {f : SharedFile} {n : Nat} (h : Ready f content)
    (ht : c.Taken content all n) :
    Ready (c.play f ts).2 content ∧
      (c.play f ts).1.Taken content all (n + ts.count (.ask .readLine)) := by
  induction ts generalizing c f n with
  | nil => exact ⟨h, ht⟩
  | cons t ts ih =>
    have hts' : LinesOnly ts := fun u hu => hts u (List.mem_cons_of_mem t hu)
    rcases hts t List.mem_cons_self with rfl | rfl | ⟨offset, rfl⟩
    · exact ih hts' ⟨h.isOpen, h.free, h.content⟩ ht
    · obtain ⟨-, hg, htaken⟩ := taken_ask h ht
      have hplay := ih hts' (h.beside hg) htaken
      have hcount : n + (ts.count (.ask .readLine) + 1) = n + 1 + ts.count (.ask .readLine) := by
        omega
      rw [List.count_cons_self, hcount]
      exact hplay
    · exact ih hts' (h.beside ⟨offset, rfl⟩) ht

/-- **Lines are kept.** Whatever a cursor has read so far, by bytes or by lines, however the file
grew meanwhile and wherever others left the handle: the data of the next line hold no line feed but
as their last byte, and without one they reach to the end of the file as it is. So on a file that
does not change, lines asked for one after the other from any position are the pieces of the rest
behind each line feed, the last one perhaps without; and when they are used up, nothing new, or
nothing ever once the producer has stopped. (A system refuses to read near the largest position that
it knows, whatever is there.) -/
theorem readLine_keeps_lines (c : Cursor) (f : SharedFile) :
    (∀ ts bytes, ((c.play f ts).1.ask (c.play f ts).2 .readLine).1 = .ok (.data bytes) →
      10 ∉ bytes.dropLast ∧
      (10 ∉ bytes → ((c.play f ts).1.ask (c.play f ts).2 .readLine).2.1.position =
        (c.play f ts).2.bytes.length)) ∧
    ∀ content, f.isOpen = true → f.isHeld = false → f.content = some content →
      ∀ ts, LinesOnly ts →
        (c.play f ts).1.Answered ((c.play f ts).1.ask (c.play f ts).2 .readLine).1
          (chunkOfPiece (c.play f ts).2.stopped
            (pieces (content.drop c.position))[ts.count (.ask .readLine)]?) := by
  constructor
  · intro ts bytes h
    generalize (c.play f ts).1 = c' at h ⊢
    generalize (c.play f ts).2 = f' at h ⊢
    obtain ⟨hbytes, hne, hposition⟩ := ask_data h
    have hline : bytes = throughLine (f'.bytes.drop c'.position) := hbytes
    obtain ⟨hlast, hwhole⟩ := throughLine_bounds (f'.bytes.drop c'.position)
    rw [← hline] at hlast hwhole
    refine ⟨hlast, fun hno => ?_⟩
    have hrest : bytes = f'.bytes.drop c'.position := hwhole hno
    have hlength := congrArg List.length hrest
    have hpos := List.length_pos_iff.mpr hne
    rw [List.length_drop] at hlength
    omega
  · intro content hopen hfree hcontent ts hts
    have hready : Ready f content := ⟨hopen, hfree, hcontent⟩
    have htaken : c.Taken content (pieces (content.drop c.position)) 0 := .inr rfl
    obtain ⟨hready', htaken'⟩ := lines_play ts hts hready htaken
    rw [Nat.zero_add] at htaken'
    exact (taken_ask hready' htaken').1

/-- A cursor in mid-line reads a byte, then the file grows and another reads elsewhere. -/
def grown : List Turn := [.ask (.read (some 1)), .append [99], .elsewhere 7]

/-- Both lines are asked for, with another's read between, and then the producer stops. -/
def allLines : List Turn := [.ask .readLine, .elsewhere 0, .ask .readLine, .stop]

theorem readLine_keeps_lines_midLine :
    (((play ⟨1, 4⟩ Sharing.sample grown).1.ask (play ⟨1, 4⟩ Sharing.sample grown).2 .readLine).1 =
        .ok (.data [98, 99]) ∧ (10 : UInt8) ∉ [98, 99] ∧
      Sharing.sample.isOpen = true ∧ Sharing.sample.isHeld = false ∧
      Sharing.sample.content = some [97, 10, 98] ∧ LinesOnly allLines) ∧
    (10 : UInt8) ∉ [98, 99].dropLast ∧
    ((play ⟨1, 4⟩ Sharing.sample grown).1.ask (play ⟨1, 4⟩ Sharing.sample grown).2
      .readLine).2.1.position = (play ⟨1, 4⟩ Sharing.sample grown).2.bytes.length ∧
    Answered (play ⟨1, 4⟩ Sharing.sample allLines).1
      ((play ⟨1, 4⟩ Sharing.sample allLines).1.ask (play ⟨1, 4⟩ Sharing.sample allLines).2
        .readLine).1 .finished := by
  have hdata : ((play ⟨1, 4⟩ Sharing.sample grown).1.ask (play ⟨1, 4⟩ Sharing.sample grown).2
      .readLine).1 = .ok (.data [98, 99]) := by
    have hready : Ready (play ⟨1, 4⟩ Sharing.sample grown).2 [97, 10, 98, 99] := ⟨rfl, rfl, rfl⟩
    have hplace : (play ⟨1, 4⟩ Sharing.sample grown).1 = ⟨2, 4⟩ := rfl
    rw [hplace]
    obtain ⟨g, -, ⟨hfar, -⟩ | hr⟩ := ask_of_ready ⟨2, 4⟩ hready .readLine
    · exact absurd hfar (by decide)
    · rw [hr]
      rfl
  have hno : (10 : UInt8) ∉ [98, 99] := by decide
  have hlines : LinesOnly allLines := by
    intro t ht
    simp only [allLines, List.mem_cons, List.not_mem_nil, or_false] at ht
    rcases ht with rfl | rfl | rfl | rfl <;> simp
  have hend : chunkOfPiece (play ⟨1, 4⟩ Sharing.sample allLines).2.stopped
      (pieces ([97, 10, 98].drop 1))[allLines.count (.ask .readLine)]? = .finished := by
    have hstopped : (play ⟨1, 4⟩ Sharing.sample allLines).2.stopped = true := rfl
    have hpieces : (pieces ([97, 10, 98].drop 1))[allLines.count (.ask .readLine)]? = none := by
      decide
    rw [hstopped, hpieces]
    rfl
  obtain ⟨hany, hstill⟩ := readLine_keeps_lines ⟨1, 4⟩ Sharing.sample
  obtain ⟨hlast, hwhole⟩ := hany grown _ hdata
  have hthird := hstill [97, 10, 98] rfl rfl rfl allLines hlines
  rw [hend] at hthird
  exact ⟨⟨hdata, hno, rfl, rfl, rfl, hlines⟩, hlast, hwhole hno, hthird⟩

end Volley.Cursor
