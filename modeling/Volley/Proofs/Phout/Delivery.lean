import Volley.Proofs.Phout.Line
import Volley.Proofs.Phout.Session

/-!
# What the writer was given

A writer loses and repeats nothing that it takes out of the channel, and before it ends it takes all
that the channel accepted. At every flush on the way the file is complete: it holds the lines of the
records that were taken so far, and these are the first of all accepted ones.

* `tally_drained`: the writer counts the records that it takes, and the failures among them.
* `Accounted.lookup_of_flushes`: the file right after a flush.
* `delivers_accepted`: the files of all flushes, and file and tallies when the writer is done.
-/
namespace Volley.Phout

/-- The tally of a writer that wrote these records as well. -/
def WriterTally.plus (t : WriterTally) (ms : List Measurement) : WriterTally :=
  ⟨t.written + ms.length, t.failed + ms.countP fun m => !m.isSuccess⟩

theorem WriterTally.plus_plus (t : WriterTally) (ms later : List Measurement) :
    (t.plus ms).plus later = t.plus (ms ++ later) := by
  simp only [plus, List.length_append, List.countP_append, Nat.add_assoc]

theorem Writer.tally_write_eq_plus (w : Writer) (fs : FileSystem) (m : Measurement) :
    (w.write fs m).1.tally = w.tally.plus [m] := by
  rw [tally_write, WriterTally.plus]
  cases hm : m.isSuccess <;> simp [hm]

namespace Session

/-! ## The records on the way -/

theorem tally_step (s : Session) (e : Event) :
    (step s e).writer.tally = s.writer.tally.plus (s.taken? e).toList := by
  cases e with
  | offer m =>
    rw [step]
    split <;> rfl
  | cloneSender =>
    rw [step]
    split <;> rfl
  | dropSender => rfl
  | write =>
    obtain ⟨m, r, hq, hp, hstep⟩ | ⟨hq, p, hstep, -⟩ | ⟨hstep, hp⟩ :=
      s.writer.step_cases s.channel s.files
    · rw [taken?_of_cons hp hq]
      simp only [step, hstep]
      exact Writer.tally_write_eq_plus ..
    · rw [taken?_of_nil hq]
      simp only [step, hstep]
      exact Writer.tally_flush ..
    · rw [taken?_of_idle hp]
      simp only [step, hstep]
      rfl

/-- The writer counts the records that it takes, and the failures among them. -/
theorem tally_drained (es : List Event) (s : Session) :
    (run s es).writer.tally = s.writer.tally.plus (s.drained es) := by
  induction es generalizing s with
  | nil => rfl
  | cons e es ih =>
    rw [drained, ← WriterTally.plus_plus, ← tally_step]
    exact ih (step s e)

theorem accepted_step (s : Session) (e : Event) : s.accepted <+: (step s e).accepted := by
  cases e with
  | offer m =>
    rw [step]
    split
    · exact List.prefix_rfl
    · exact ⟨_, (Channel.taken_snoc s.offers m _).symm⟩
  | cloneSender =>
    rw [step]
    split <;> exact List.prefix_rfl
  | dropSender => exact List.prefix_rfl
  | write => exact List.prefix_rfl

/-- What was accepted so far comes first. -/
theorem accepted_run (es : List Event) (s : Session) : s.accepted <+: (run s es).accepted := by
  induction es generalizing s with
  | nil => exact List.prefix_rfl
  | cons e es ih => exact (accepted_step s e).trans (ih (step s e))

/-! ## Flushes -/

/-- Whether an event is a flush: the writer finds nothing more to take, or the channel at its
end. -/
def flushes (s : Session) : Event → Bool
  | .write =>
    match s.writer.phase with
    | .waiting => s.channel.drain.2 = .ended
    | .emptying => s.channel.tryDrain.2 = none
    | .done => false
  | _ => false

/-- A flush takes no record, and leaves nothing in the buffer. -/
theorem buffer_of_flushes {s : Session} {e : Event} (h : s.flushes e = true) :
    s.taken? e = none ∧ (step s e).writer.buffer = [] := by
  cases e with
  | offer m => cases h
  | cloneSender => cases h
  | dropSender => cases h
  | write =>
    obtain ⟨m, r, hq, hp, -⟩ | ⟨hq, p, hstep, -⟩ | ⟨-, hp | ⟨⟨hp, hq⟩, hs⟩⟩ :=
      s.writer.step_cases s.channel s.files
    · cases hphase : s.writer.phase <;>
        simp [flushes, hphase, Channel.tryDrain, Channel.drain, hq] at h
    · refine ⟨taken?_of_nil hq, ?_⟩
      simp only [step, hstep]
      exact Writer.buffer_flush ..
    · simp [flushes, hp] at h
    · simp [flushes, hp, Channel.drain, hq, hs] at h

/-- Right after a flush the file holds what was taken so far. -/
theorem Accounted.lookup_of_flushes {path : String} {s : Session} {earlier : List Measurement}
    (h : Accounted path s earlier) {e : Event} (he : s.flushes e = true) :
    (step s e).files.lookup path = .ok (.file (earlier.flatMap Writer.lineBytes)) := by
  obtain ⟨hnone, hbuffer⟩ := buffer_of_flushes he
  have hstep := accounted_step h e
  rw [hnone, Option.toList_none, List.append_nil] at hstep
  exact hstep.content.lookup hbuffer

/-! ## The whole transfer -/

/-- What was taken so far are the first of the accepted records. -/
theorem Accounted.prefix_accepted {path : String} {s : Session} {earlier : List Measurement}
    (h : Accounted path s earlier) : earlier <+: s.accepted := ⟨_, h.order⟩

/-- At its end the writer took all that was accepted. -/
theorem Accounted.eq_accepted {path : String} {s : Session} {earlier : List Measurement}
    (h : Accounted path s earlier) (hd : s.writer.phase = .done) : earlier = s.accepted := by
  rw [← h.order, (h.ended hd).2, List.append_nil]

theorem tally_create {fs fs' : FileSystem} {path : String} {w : Writer}
    (h : Writer.create fs path = .ok (w, fs')) : w.tally = ⟨0, 0⟩ := by
  unfold Writer.create at h
  split at h <;> cases h
  rfl

/-- **The writer delivers what was accepted.** Whatever the capacity, and however offers, clones and
drops of senders and the steps of the writer are interleaved: the records that were taken and the
queue are the accepted records in their order. Right after each flush the file holds the lines of
all records that were taken until then, which are a prefix of the accepted ones. When the writer is
done, the file holds the lines of all accepted records in their order, one for each that it counted;
it counted the failures among them too, and all other offers were dropped. The writer comes to its
end when the last sender is gone. -/
theorem delivers_accepted {fs files : FileSystem} {path : String} {w : Writer}
    (hcreate : Writer.create fs path = .ok (w, files)) (capacity : Nat) (es : List Event) :
    let first := start w files capacity
    let s := run first es
    first.drained es ++ s.channel.queue = s.accepted ∧
    (∀ before event later, es = before ++ event :: later →
      (run first before).flushes event = true →
        (run first (before ++ [event])).files.lookup path =
          .ok (.file ((first.drained (before ++ [event])).flatMap Writer.lineBytes)) ∧
        first.drained (before ++ [event]) <+: s.accepted) ∧
    (s.writer.phase = .done →
      ∃ content, s.files.lookup path = .ok (.file content) ∧
        content = s.accepted.flatMap Writer.lineBytes ∧
        s.writer.tally.written = s.accepted.length ∧ s.writer.tally.written = content.count 10 ∧
        s.writer.tally.failed = s.accepted.countP (fun m => !m.isSuccess) ∧
        s.channel.tally.offered = s.offers.length ∧
        s.writer.tally.written + s.channel.tally.dropped = s.channel.tally.offered) ∧
    (s.channel.senders = 0 → s.finish.writer.phase = .done) := by
  intro first s
  have hfirst : Accounted path first [] := accounted_start hcreate capacity
  have hs : Accounted path s (first.drained es) := accounted_drained es hfirst
  refine ⟨hs.order, fun before event later hes hflush => ?_, fun hdone => ?_, done_of_gone⟩
  · -- A flush takes nothing, so what was taken with it is what was taken before it.
    have hbefore : Accounted path (run first before) (first.drained before) :=
      accounted_drained before hfirst
    have hsame : first.drained (before ++ [event]) = first.drained before := by
      rw [drained_append, drained, (buffer_of_flushes hflush).1]
      exact List.append_nil _
    rw [hsame, run_append]
    refine ⟨hbefore.lookup_of_flushes hflush, ?_⟩
    have hlater : s = run (run first before) (event :: later) := by
      rw [← run_append, ← hes]
    rw [hlater]
    exact hbefore.prefix_accepted.trans (accepted_run (event :: later) _)
  · have hall : first.drained es = s.accepted := hs.eq_accepted hdone
    have htally : s.writer.tally = (⟨0, 0⟩ : WriterTally).plus s.accepted := by
      rw [← hall, ← tally_create hcreate]
      exact tally_drained es first
    have hwritten : s.writer.tally.written = s.accepted.length := by
      rw [htally]
      exact Nat.zero_add _
    have hfailed : s.writer.tally.failed = s.accepted.countP fun m => !m.isSuccess := by
      rw [htally]
      exact Nat.zero_add _
    obtain ⟨⟨hoffered, haccepted, htotal, hclosed⟩, hreceiving, -⟩ :=
      tallied_run es (tallied_start hcreate capacity)
    refine ⟨_, written_of_done hs hdone, rfl, hwritten, ?_, hfailed, hoffered, ?_⟩
    · rw [hwritten, count_newline_lines]
    · have htaken : s.channel.tally.accepted = s.accepted.length := haccepted
      have hnone : s.channel.tally.closed = 0 := hclosed hreceiving
      have hsum : s.channel.tally.offered = s.channel.tally.accepted + s.channel.tally.dropped +
        s.channel.tally.closed := htotal
      omega

/-- A shot that went well, and one that did not. -/
def goodShot : Measurement :=
  ⟨Figures.initial, ⟨1700000000, 250000000⟩, "good", 1500⟩

def badShot : Measurement :=
  ⟨Figures.initial.markFailed, ⟨1700000001, 0⟩, "bad", 9⟩

/-- A writer at an empty file. -/
def idleWriter : Writer := ⟨"out.log", ["out.log"], [], ⟨0, 0⟩, .waiting⟩

def idleFiles : FileSystem := ⟨[(["out.log"], .file [])]⟩

/-- A sender comes when the writer has flushed once. Of its two records the second finds no room, as
the writer has not taken the first one yet. -/
def comeAndGo : List Event :=
  [.offer goodShot, .write, .write, .cloneSender, .offer badShot, .dropSender, .offer goodShot,
    .write, .dropSender, .write, .write]

theorem delivers_accepted_comeAndGo :
    (Writer.create .empty "out.log" = .ok (idleWriter, idleFiles) ∧
      (run (start idleWriter idleFiles 1) [.offer goodShot, .write]).flushes .write = true ∧
      (run (start idleWriter idleFiles 1) comeAndGo).writer.phase = .done) ∧
    (run (start idleWriter idleFiles 1) [.offer goodShot, .write, .write]).files.lookup "out.log" =
      .ok (.file ([goodShot].flatMap Writer.lineBytes)) ∧
    (run (start idleWriter idleFiles 1) comeAndGo).files.lookup "out.log" =
      .ok (.file ([goodShot, badShot].flatMap Writer.lineBytes)) ∧
    (run (start idleWriter idleFiles 1) comeAndGo).writer.tally.written = 2 ∧
    (run (start idleWriter idleFiles 1) comeAndGo).writer.tally.failed = 1 ∧
    (run (start idleWriter idleFiles 1) comeAndGo).channel.tally.dropped = 1 := by
  have hcreate : Writer.create .empty "out.log" = .ok (idleWriter, idleFiles) :=
    ok_of_toOption (by decide +kernel)
  have hflush : (run (start idleWriter idleFiles 1) [.offer goodShot, .write]).flushes .write =
      true := by decide +kernel
  have hdone : (run (start idleWriter idleFiles 1) comeAndGo).writer.phase = .done := by
    decide +kernel
  have haccepted : (run (start idleWriter idleFiles 1) comeAndGo).accepted = [goodShot, badShot] :=
    by decide +kernel
  have hdrained : (start idleWriter idleFiles 1).drained [.offer goodShot, .write, .write] =
      [goodShot] := by decide +kernel
  obtain ⟨-, hflushed, hend, -⟩ := delivers_accepted hcreate 1 comeAndGo
  obtain ⟨hfile, -⟩ := hflushed [.offer goodShot, .write] .write _ rfl hflush
  obtain ⟨content, hlast, rfl, hwritten, -, hfailed, hoffered, hsum⟩ := hend hdone
  rw [haccepted] at hlast hwritten hfailed
  have hoffers : (run (start idleWriter idleFiles 1) comeAndGo).offers.length = 3 := by
    decide +kernel
  have hfailures : [goodShot, badShot].countP (fun m => !m.isSuccess) = 1 := by decide
  refine ⟨⟨hcreate, hflush, hdone⟩, ?_, hlast, hwritten, hfailed.trans hfailures, ?_⟩
  · rw [← hdrained]
    exact hfile
  · rw [hwritten, hoffered, hoffers] at hsum
    exact Nat.add_left_cancel (n := 2) hsum

end Session

end Volley.Phout
