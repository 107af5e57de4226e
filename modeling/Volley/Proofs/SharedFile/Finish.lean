import Volley.Proofs.SharedFile.Sharing

/-!
# When a cursor is told that it has finished

A call answers that the cursor has finished when the producer has stopped and the read finds
nothing. A read that asks for something finds nothing only at the end of the file, and on a file
that no longer changes a cursor stays there. A read of no bytes finds nothing anywhere, so its
answer says nothing about what is left.

* `ask_of_ready`, `ask_of_settled`: a call on a file that can be read, and on one whose producer has
  stopped.
* `settled_of_finished`: what that answer says of the file.
* `answers_at_end`: the calls of a cursor at the end of the file.
* `finished_at_end_is_final`: the calls after that answer.
* `finished_before_data`: a read of no bytes, and data after it.
-/
namespace Volley.Cursor

open SharedFile
open Sharing (Call)

/-! ## Calls -/

/-- One call. -/
def ask (c : Cursor) (f : SharedFile) : Call → Except Fault Chunk × Cursor × SharedFile
  | .read count => c.read f count
  | .readLine => c.readLine f

/-- The answers of calls. Before each call, others may have left the handle at some offset. -/
def answers (c : Cursor) (f : SharedFile) : List (Nat × Call) → List (Except Fault Chunk)
  | [] => []
  | (offset, call) :: calls =>
    let (answer, c, f) := c.ask (f.seek offset) call
    answer :: c.answers f calls

theorem ask_eq (c : Cursor) (f : SharedFile) (call : Call) :
    c.ask f call = c.readAfter f f.stopped (call.mode c) := by
  cases call <;> rfl

/-- The answer is the chunk, or the cursor is so far out that the system refuses to read there. -/
def Answered (c : Cursor) (answer : Except Fault Chunk) (chunk : Chunk) : Prop :=
  answer = .ok chunk ∨ (positionLimit ≤ c.position + lineBlock ∧ ∃ e, answer = .error e)

/-! ## Files that can be read -/

/-- An open file with nothing in the way of reads. -/
structure Ready (f : SharedFile) (content : List UInt8) : Prop where
  isOpen : f.isOpen = true
  free : f.isHeld = false
  content : f.content = some content

theorem Ready.bytes {f : SharedFile} {content : List UInt8} (h : Ready f content) :
    f.bytes = content := by
  rw [SharedFile.bytes, h.content, Option.getD_some]

theorem Ready.beside {f g : SharedFile} {content : List UInt8} (h : Ready f content)
    (hg : Beside f g) : Ready g content := by
  obtain ⟨offset, rfl⟩ := hg
  exact ⟨h.isOpen, h.free, h.content⟩

theorem firstRequest_le (mode : ReadMode) : firstRequest mode ≤ lineBlock := by
  cases mode with
  | bytes count => exact Nat.le_trans (Nat.min_le_right _ _) (by decide)
  | line => exact Nat.le_refl _

/-- A call finds the bytes at the cursor, or the system refuses it and leaves the cursor. -/
theorem ask_of_ready (c : Cursor) {f : SharedFile} {content : List UInt8}
    (h : Ready f content) (call : Call) :
    ∃ g, Beside f g ∧
      ((positionLimit ≤ c.position + lineBlock ∧ ∃ e, c.ask f call = (.error e, c, g)) ∨
        c.ask f call =
          (.ok (chunkOf f.stopped (bytesAt content c.position (call.mode c))),
            { c with position := c.position + (bytesAt content c.position (call.mode c)).length },
            g)) := by
  rw [ask_eq]
  obtain ⟨g, hg, ⟨e, hr⟩ | hr⟩ := c.readAfter_cases f f.stopped (call.mode c)
  · refine ⟨g, hg.beside h.free, .inl ⟨Nat.le_of_not_lt fun hlt => ?_, e, hr⟩⟩
    have hfirst := firstRequest_le (call.mode c)
    obtain ⟨chunk, hok⟩ := readAfter_isOk h.free
      (fault?_eq_none h.isOpen h.content (Nat.lt_of_le_of_lt (Nat.add_le_add_left hfirst _) hlt))
      f.stopped
    rw [hr] at hok
    cases hok
  · rw [h.bytes] at hr
    exact ⟨g, hg.beside h.free, .inr hr⟩

/-! ## Files whose producer has stopped -/

/-- An open file with nothing in the way of reads, to which nothing more is written. -/
structure Settled (f : SharedFile) (content : List UInt8) : Prop where
  isOpen : f.isOpen = true
  free : f.isHeld = false
  stopped : f.stopped = true
  content : f.content = some content

theorem Settled.ready {f : SharedFile} {content : List UInt8} (h : Settled f content) :
    Ready f content :=
  ⟨h.isOpen, h.free, h.content⟩

theorem Settled.beside {f g : SharedFile} {content : List UInt8} (h : Settled f content)
    (hg : Beside f g) : Settled g content := by
  obtain ⟨offset, rfl⟩ := hg
  exact ⟨h.isOpen, h.free, h.stopped, h.content⟩

theorem ask_of_settled (c : Cursor) {f : SharedFile} {content : List UInt8}
    (h : Settled f content) (call : Call) :
    ∃ g, Beside f g ∧
      ((positionLimit ≤ c.position + lineBlock ∧ ∃ e, c.ask f call = (.error e, c, g)) ∨
        c.ask f call =
          (.ok (chunkOf true (bytesAt content c.position (call.mode c))),
            { c with position := c.position + (bytesAt content c.position (call.mode c)).length },
            g)) := by
  have hask := c.ask_of_ready h.ready call
  rwa [h.stopped] at hask

/-- A call that does not fail found the lock free and the file open. -/
theorem ready_of_ok {c : Cursor} {f : SharedFile} {call : Call} {chunk : Chunk}
    (h : (c.ask f call).1 = .ok chunk) : f.isHeld = false ∧ f.isOpen = true := by
  rw [ask_eq, readAfter] at h
  cases hheld : f.isHeld with
  | true =>
    obtain ⟨e, n, chance, ha⟩ := acquire_of_held hheld
    rw [SharedFile.readAfter, ha] at h
    cases h
  | false =>
    refine ⟨rfl, ?_⟩
    cases hopen : f.isOpen with
    | true => rfl
    | false =>
      have hfault : f.fault? c.position (call.mode c) =
          some (.file (f.path ++ " has been closed")) := by
        unfold fault?
        rw [hopen]
        rfl
      rw [readAfter_of_free hheld, readMoving, hfault] at h
      cases h

/-- Only on a file whose producer has stopped has a cursor finished, and the call moves nothing but
the handle. -/
theorem settled_of_finished {c : Cursor} {f : SharedFile} {content : List UInt8}
    (hcontent : f.content = some content) {call : Call} (h : (c.ask f call).1 = .ok .finished) :
    Settled f content ∧ bytesAt content c.position (call.mode c) = [] ∧
      ∃ g, Beside f g ∧ c.ask f call = (.ok .finished, c, g) := by
  obtain ⟨hfree, hopen⟩ := ready_of_ok h
  have hbytes : f.bytes = content := by rw [SharedFile.bytes, hcontent, Option.getD_some]
  rw [ask_eq] at h ⊢
  obtain ⟨g, hg, ⟨e, hr⟩ | hr⟩ := c.readAfter_cases f f.stopped (call.mode c)
  · rw [hr] at h
    cases h
  · rw [hbytes] at hr
    rw [hr] at h
    obtain ⟨hnil, hstopped⟩ := Sharing.chunkOf_eq_finished.mp (Except.ok.inj h)
    refine ⟨⟨hopen, hfree, hstopped, hcontent⟩, hnil, g, hg.beside hfree, ?_⟩
    rw [hr, hnil, hstopped]
    rfl

/-! ## At the end of the file -/

/-- Nothing is behind the end, however much is asked for. -/
theorem bytesAt_of_end {content : List UInt8} {position : Nat} (h : content.length ≤ position)
    (mode : ReadMode) : bytesAt content position mode = [] := by
  by_cases hmode : mode = .bytes 0
  · rw [hmode, bytesAt, List.take_zero]
  · exact (bytesAt_eq_nil hmode).mpr h

/-- At the end every call answers that the cursor has finished. -/
theorem answers_at_end (c : Cursor) {content : List UInt8} (hend : content.length ≤ c.position)
    (calls : List (Nat × Call)) {f : SharedFile} (h : Settled f content) :
    ∀ a ∈ c.answers f calls, c.Answered a .finished := by
  induction calls generalizing f with
  | nil => exact nofun
  | cons first calls ih =>
    obtain ⟨offset, call⟩ := first
    have hmoved : Settled (f.seek offset) content := h.beside ⟨offset, rfl⟩
    obtain ⟨g, hg, hr⟩ := c.ask_of_settled hmoved call
    rw [bytesAt_of_end hend] at hr
    -- Refused or finished, the cursor stays where it is.
    have hstep : ∃ a, c.Answered a .finished ∧ c.ask (f.seek offset) call = (a, c, g) := by
      obtain ⟨hfar, e, hr⟩ | hr := hr
      · exact ⟨.error e, .inr ⟨hfar, e, rfl⟩, hr⟩
      · exact ⟨.ok .finished, .inl rfl, hr⟩
    obtain ⟨a, ha, hr⟩ := hstep
    rw [answers, hr]
    exact List.forall_mem_cons.mpr ⟨ha, ih (hmoved.beside hg)⟩

/-- **Finished is final at the end of the file, and only there.** A call that asks for something and
answers that the cursor has finished finds it at the end. There every later call answers so again,
also when others move the handle between the calls. Before the end only a call that asks for no
bytes can answer so; then the next call that asks for something gets data. (A system refuses to read
near the largest position that it knows, whatever is there.) -/
theorem finished_at_end_is_final (c : Cursor) (f : SharedFile) {content : List UInt8}
    (hcontent : f.content = some content) (call : Call)
    (h : (c.ask f call).1 = .ok .finished) :
    let c' := (c.ask f call).2.1
    let f' := (c.ask f call).2.2
    (call.mode c ≠ .bytes 0 → content.length ≤ c.position) ∧
    (content.length ≤ c.position → ∀ calls, ∀ a ∈ c'.answers f' calls, c.Answered a .finished) ∧
    (c.position < content.length → ∀ offset next, next.mode c ≠ .bytes 0 →
      ∃ bytes, c.Answered (c'.ask (f'.seek offset) next).1 (.data bytes)) := by
  obtain ⟨hsettled, hnil, g, hg, hr⟩ := settled_of_finished hcontent h
  have hlater : Settled g content := hsettled.beside hg
  simp only [hr]
  refine ⟨fun hmode => (bytesAt_eq_nil hmode).mp hnil,
    fun hend calls => c.answers_at_end hend calls hlater, fun hbefore offset next hmode => ?_⟩
  have hsome : bytesAt content c.position (next.mode c) ≠ [] := fun e =>
    Nat.not_le_of_lt hbefore ((bytesAt_eq_nil hmode).mp e)
  refine ⟨bytesAt content c.position (next.mode c), ?_⟩
  obtain ⟨_, -, ⟨hfar, e, hn⟩ | hn⟩ := c.ask_of_settled (hlater.beside ⟨offset, rfl⟩) next
  · exact .inr ⟨hfar, e, by rw [hn]⟩
  · exact .inl (by rw [hn, chunkOf, if_pos hsome])

/-- Three bytes of a producer that has stopped. -/
def stoppedFile : SharedFile :=
  { Sharing.sample with content := some [97, 98, 99], stopped := true }

/-- A cursor behind the last byte. -/
theorem finished_at_end_is_final_behindLast :
    (stoppedFile.content = some [97, 98, 99] ∧
      (Cursor.ask ⟨3, 4⟩ stoppedFile (.read (some 2))).1 = .ok .finished) ∧
    ∀ a ∈ (Cursor.ask ⟨3, 4⟩ stoppedFile (.read (some 2))).2.1.answers
        (Cursor.ask ⟨3, 4⟩ stoppedFile (.read (some 2))).2.2
        [(1, .read (some 0)), (0, .readLine), (7, .read none)],
      Cursor.Answered ⟨3, 4⟩ a .finished :=
  ⟨⟨rfl, rfl⟩,
    (finished_at_end_is_final ⟨3, 4⟩ stoppedFile rfl (.read (some 2)) rfl).2.1 (Nat.le_refl 3) _⟩

/-- A read of no bytes answers at the start of a file that the cursor has finished, and the next
read gets the whole file. -/
theorem finished_before_data :
    Cursor.answers ⟨0, 4⟩ stoppedFile [(0, .read (some 0)), (0, .read none)] =
      [.ok .finished, .ok (.data [97, 98, 99])] := rfl

end Volley.Cursor
