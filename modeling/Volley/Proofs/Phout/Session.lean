import Volley.Phout.Writer
import Volley.Proofs.Channel.Traffic
import Volley.Proofs.FileSystem

/-!
# A writer and its senders

A `Session` is a writer at the end of a result channel, and senders that come, go and offer records
in any order between its steps. The writer owns the receiver, so nobody else takes records.

* `accounted_run`: in every reachable state the file and the buffer behind it hold the lines of the
  records that the writer took, and these and the queued ones are the accepted ones, in order.
* `tallied_step`: the tallies of the channel and of the writer tell what became of the offers.
* `done_of_gone`: when no sender is left, the writer comes to its end.
* `written_of_done`: then the file holds the lines of all accepted records, and nothing else.
-/
namespace Volley.Phout

open FileSystem

/-! ## The file and the buffer -/

namespace Writer

/-- The file at the path and the buffer behind it make up the content. -/
def Holds (w : Writer) (fs : FileSystem) (path : String) (content : List UInt8) : Prop :=
  ∃ bytes, fs.FileAt path w.place bytes ∧ bytes ++ w.buffer = content

theorem holds_create {fs fs' : FileSystem} {path : String} {w : Writer}
    (h : create fs path = .ok (w, fs')) :
    w.Holds fs' path [] ∧ w.buffer = [] ∧ w.phase = .waiting := by
  unfold create at h
  split at h
  · rename_i hc
    cases h
    exact ⟨⟨[], .of_create hc, rfl⟩, rfl, rfl⟩
  · cases h

section
variable {w : Writer} {fs : FileSystem} {path : String} {content : List UInt8}

theorem buffer_flush (w : Writer) (fs : FileSystem) : (w.flush fs).1.buffer = [] := by
  unfold flush
  split
  · assumption
  · rfl

theorem Holds.flush (h : w.Holds fs path content) :
    (w.flush fs).1.Holds (w.flush fs).2 path content := by
  unfold Writer.flush
  split
  · exact h
  · obtain ⟨bytes, hfile, hc⟩ := h
    exact ⟨bytes ++ w.buffer, hfile.append w.buffer, by rw [List.append_nil, hc]⟩

/-- Bytes go behind the buffer, which may have been flushed, or past it when it is empty. -/
theorem put_cases (w : Writer) (fs : FileSystem) (more : List UInt8) :
    ∃ w' fs', ((w', fs') = (w, fs) ∨ (w', fs') = w.flush fs) ∧
      (w.put fs more = ({ w' with buffer := w'.buffer ++ more }, fs') ∨
        w'.buffer = [] ∧ w.put fs more = (w', fs'.append w'.place more)) := by
  unfold Writer.put
  by_cases hfull : bufferSize < w.buffer.length + more.length
  · refine ⟨(w.flush fs).1, (w.flush fs).2, .inr rfl, ?_⟩
    simp only [if_pos hfull]
    by_cases hlong : bufferSize ≤ more.length
    · exact .inr ⟨buffer_flush w fs, if_pos hlong⟩
    · exact .inl (if_neg hlong)
  · refine ⟨w, fs, .inl rfl, ?_⟩
    simp only [if_neg hfull]
    by_cases hlong : bufferSize ≤ more.length
    · exact .inr ⟨List.eq_nil_of_length_eq_zero (by omega), if_pos hlong⟩
    · exact .inl (if_neg hlong)

theorem Holds.put (h : w.Holds fs path content) (more : List UInt8) :
    (w.put fs more).1.Holds (w.put fs more).2 path (content ++ more) := by
  obtain ⟨w', fs', hflush, hput⟩ := put_cases w fs more
  have hholds : w'.Holds fs' path content := by
    rcases hflush with e | e
    · cases e
      exact h
    · have := h.flush
      rw [← e] at this
      exact this
  obtain ⟨bytes, hfile, hc⟩ := hholds
  rcases hput with e | ⟨hempty, e⟩ <;> rw [e]
  · exact ⟨bytes, hfile, by rw [← hc, List.append_assoc]⟩
  · refine ⟨bytes ++ more, hfile.append more, ?_⟩
    rw [← hc, hempty, List.append_nil, List.append_nil]

theorem Holds.write (h : w.Holds fs path content) (m : Measurement) :
    (w.write fs m).1.Holds (w.write fs m).2 path (content ++ lineBytes m) := by
  have hput := h.put (lineBytes m)
  unfold Writer.write
  generalize w.put fs (lineBytes m) = p at hput ⊢
  obtain ⟨w', fs'⟩ := p
  exact hput

theorem phase_flush (w : Writer) (fs : FileSystem) : (w.flush fs).1.phase = w.phase := by
  unfold Writer.flush
  split <;> rfl

theorem phase_put (w : Writer) (fs : FileSystem) (more : List UInt8) :
    (w.put fs more).1.phase = w.phase := by
  obtain ⟨w', fs', hflush, hput⟩ := put_cases w fs more
  have hphase : w'.phase = w.phase := by
    rcases hflush with e | e
    · cases e
      rfl
    · rw [← phase_flush w fs, ← e]
  rcases hput with e | ⟨-, e⟩ <;> rw [e] <;> exact hphase

theorem phase_write (w : Writer) (fs : FileSystem) (m : Measurement) :
    (w.write fs m).1.phase = w.phase := by
  have hput := phase_put w fs (lineBytes m)
  unfold Writer.write
  generalize w.put fs (lineBytes m) = p at hput ⊢
  obtain ⟨w', fs'⟩ := p
  exact hput

theorem tally_flush (w : Writer) (fs : FileSystem) : (w.flush fs).1.tally = w.tally := by
  unfold Writer.flush
  split <;> rfl

theorem tally_put (w : Writer) (fs : FileSystem) (more : List UInt8) :
    (w.put fs more).1.tally = w.tally := by
  obtain ⟨w', fs', hflush, hput⟩ := put_cases w fs more
  have htally : w'.tally = w.tally := by
    rcases hflush with e | e
    · cases e
      rfl
    · rw [← tally_flush w fs, ← e]
  rcases hput with e | ⟨-, e⟩ <;> rw [e] <;> exact htally

theorem tally_write (w : Writer) (fs : FileSystem) (m : Measurement) :
    (w.write fs m).1.tally = ⟨w.tally.written + 1,
      if m.toFigures.isSuccess then w.tally.failed else w.tally.failed + 1⟩ := by
  have hput := tally_put w fs (lineBytes m)
  unfold Writer.write
  generalize w.put fs (lineBytes m) = p at hput ⊢
  obtain ⟨w', fs'⟩ := p
  rw [← hput]

theorem written_write (w : Writer) (fs : FileSystem) (m : Measurement) :
    (w.write fs m).1.tally.written = w.tally.written + 1 := by
  rw [tally_write]

/-- A file without a buffer behind it is what the path leads to. -/
theorem Holds.lookup (h : w.Holds fs path content) (hb : w.buffer = []) :
    fs.lookup path = .ok (.file content) := by
  obtain ⟨bytes, hfile, hc⟩ := h
  rw [hb, List.append_nil] at hc
  rw [hfile.lookup, hc]

end

/-- The writer takes a record, or finds none and flushes, or has nothing to do. -/
theorem step_cases (w : Writer) (c : Channel) (fs : FileSystem) :
    (∃ m r, c.queue = m :: r ∧ w.phase ≠ .done ∧ w.step c fs =
      ({ (w.write fs m).1 with phase := .emptying }, { c with queue := r }, (w.write fs m).2)) ∨
    (c.queue = [] ∧ ∃ p, w.step c fs = ({ (w.flush fs).1 with phase := p }, c, (w.flush fs).2) ∧
      ((w.phase = .waiting ∧ p = .done ∧ c.senders = 0) ∨ (w.phase = .emptying ∧ p = .waiting))) ∨
    (w.step c fs = (w, c, fs) ∧
      (w.phase = .done ∨ (w.phase = .waiting ∧ c.queue = []) ∧ c.senders ≠ 0)) := by
  unfold step
  cases hp : w.phase with
  | done => exact .inr (.inr ⟨rfl, .inl rfl⟩)
  | waiting =>
    cases hq : c.queue with
    | nil =>
      by_cases hs : c.senders = 0
      · refine .inr (.inl ⟨rfl, .done, ?_, .inl ⟨rfl, rfl, hs⟩⟩)
        simp only [Channel.drain, hq, if_pos hs]
      · refine .inr (.inr ⟨?_, .inr ⟨⟨rfl, rfl⟩, hs⟩⟩)
        simp only [Channel.drain, hq, if_neg hs]
    | cons m r =>
      refine .inl ⟨m, r, rfl, by decide, ?_⟩
      simp only [Channel.drain, hq]
  | emptying =>
    cases hq : c.queue with
    | nil =>
      refine .inr (.inl ⟨rfl, .waiting, ?_, .inr ⟨rfl, rfl⟩⟩)
      by_cases hs : c.senders = 0
      · simp only [Channel.tryDrain, Channel.drain, hq, if_pos hs]
      · simp only [Channel.tryDrain, Channel.drain, hq, if_neg hs]
    | cons m r =>
      refine .inl ⟨m, r, rfl, by decide, ?_⟩
      have hphase : (w.write fs m).1.phase = .emptying := (phase_write w fs m).trans hp
      simp only [Channel.tryDrain, Channel.drain, hq]
      generalize w.write fs m = p at hphase ⊢
      obtain ⟨w', fs'⟩ := p
      simp only at hphase ⊢
      rw [← hphase]

/-- The writer only takes records out. -/
theorem channel_step (w : Writer) (c : Channel) (fs : FileSystem) :
    (w.step c fs).2.1.senders = c.senders ∧ (w.step c fs).2.1.tally = c.tally := by
  obtain ⟨m, r, -, -, h⟩ | ⟨-, p, h, -⟩ | ⟨h, -⟩ := w.step_cases c fs <;> rw [h] <;>
    exact ⟨rfl, rfl⟩

end Writer

/-! ## Sessions -/

structure Session where
  writer : Writer
  channel : Channel
  files : FileSystem
  /-- Every offer with its answer, in order. -/
  offers : List (Measurement × Bool)

namespace Session

inductive Event where
  | offer (m : Measurement)
  | cloneSender
  | dropSender
  /-- One step of the writer. -/
  | write
  deriving DecidableEq, Repr

def start (writer : Writer) (files : FileSystem) (capacity : Nat) : Session :=
  ⟨writer, .create capacity, files, []⟩

/-- Where no sender is left, nobody can offer or make another one. -/
def step (s : Session) : Event → Session
  | .offer m =>
    if s.channel.senders = 0 then s
    else
      let (channel, taken) := s.channel.offer m
      { s with channel, offers := s.offers ++ [(m, taken)] }
  | .cloneSender =>
    if s.channel.senders = 0 then s else { s with channel := s.channel.cloneSender }
  | .dropSender => { s with channel := s.channel.dropSender }
  | .write =>
    let (writer, channel, files) := s.writer.step s.channel s.files
    { s with writer, channel, files }

def run (s : Session) (es : List Event) : Session := es.foldl step s

theorem run_append (s : Session) (es later : List Event) :
    run s (es ++ later) = run (run s es) later := List.foldl_append

/-- The records that the channel took, in order. -/
def accepted (s : Session) : List Measurement := (s.offers.filter (·.2)).map (·.1)

theorem accepted_of_offers {s : Session} {ms : List Measurement}
    (h : s.offers = ms.map fun m => (m, true)) : s.accepted = ms := by
  rw [accepted, h, List.filter_map, List.map_map]
  simp [Function.comp_def]

/-- The record that an event takes out of the channel. -/
def taken? (s : Session) : Event → Option Measurement
  | .write => if s.writer.phase = .done then none else s.channel.tryDrain.2
  | _ => none

theorem taken?_of_cons {s : Session} (hp : s.writer.phase ≠ .done) {m : Measurement}
    {r : List Measurement} (hq : s.channel.queue = m :: r) : s.taken? .write = some m := by
  rw [taken?, if_neg hp]
  simp only [Channel.tryDrain, Channel.drain, hq]

theorem taken?_of_nil {s : Session} (hq : s.channel.queue = []) : s.taken? .write = none := by
  obtain ⟨m, r, hcons, -⟩ | ⟨-, hd⟩ := s.channel.tryDrain_cases
  · cases hq.symm.trans hcons
  · simp only [taken?, hd, ite_self]

/-- A writer that has nothing to do takes nothing. -/
theorem taken?_of_idle {s : Session}
    (h : s.writer.phase = .done ∨ (s.writer.phase = .waiting ∧ s.channel.queue = []) ∧
      s.channel.senders ≠ 0) : s.taken? .write = none := by
  rcases h with hp | ⟨⟨-, hq⟩, -⟩
  · exact if_pos hp
  · exact taken?_of_nil hq

/-- The writer took `drained` so far. -/
structure Accounted (path : String) (s : Session) (drained : List Measurement) : Prop where
  content : s.writer.Holds s.files path (drained.flatMap Writer.lineBytes)
  order : drained ++ s.channel.queue = s.accepted
  flushed : s.writer.phase ≠ .emptying → s.writer.buffer = []
  ended : s.writer.phase = .done → s.channel.senders = 0 ∧ s.channel.queue = []

theorem accounted_start {fs fs' : FileSystem} {path : String} {w : Writer}
    (h : Writer.create fs path = .ok (w, fs')) (capacity : Nat) :
    Accounted path (start w fs' capacity) [] := by
  obtain ⟨hholds, hbuffer, hphase⟩ := Writer.holds_create h
  refine ⟨hholds, rfl, fun _ => hbuffer, fun hd => ?_⟩
  rw [show (start w fs' capacity).writer.phase = .waiting from hphase] at hd
  cases hd

section Step
variable {path : String} {s : Session} {drained : List Measurement}
  (h : Accounted path s drained)

include h in
theorem Accounted.offer (m : Measurement) : Accounted path (step s (.offer m)) drained := by
  by_cases hs : s.channel.senders = 0
  · rw [step, if_pos hs]
    exact h
  · rw [step, if_neg hs]
    refine ⟨h.content, ?_, h.flushed, fun hd => absurd (h.ended hd).1 hs⟩
    show drained ++ (s.channel.offer m).1.queue = _
    rw [Channel.queue_offer, ← List.append_assoc, h.order]
    exact (Channel.taken_snoc s.offers m _).symm

include h in
theorem Accounted.cloneSender : Accounted path (step s .cloneSender) drained := by
  by_cases hs : s.channel.senders = 0
  · rw [step, if_pos hs]
    exact h
  · rw [step, if_neg hs]
    exact ⟨h.content, h.order, h.flushed, fun hd => absurd (h.ended hd).1 hs⟩

include h in
theorem Accounted.dropSender : Accounted path (step s .dropSender) drained := by
  refine ⟨h.content, h.order, h.flushed, fun hd => ?_⟩
  obtain ⟨hs, hq⟩ := h.ended hd
  refine ⟨?_, hq⟩
  show s.channel.senders - 1 = 0
  rw [hs]

include h in
theorem Accounted.taken : Accounted path (step s .write) (drained ++ (s.taken? .write).toList) := by
  obtain ⟨m, r, hq, hp, hstep⟩ | ⟨hq, p, hstep, hp⟩ | ⟨hstep, hp⟩ :=
    s.writer.step_cases s.channel s.files
  · have hwrite := h.content.write m
    have horder := h.order
    rw [taken?_of_cons hp hq]
    simp only [step, hstep]
    rw [hq] at horder
    generalize s.writer.write s.files m = p at hwrite ⊢
    refine ⟨?_, ?_, fun hd => absurd rfl hd, fun hd => nomatch hd⟩
    · rw [List.flatMap_append, Option.toList_some, List.flatMap_singleton]
      exact hwrite
    · rw [List.append_assoc, Option.toList_some, List.singleton_append]
      exact horder
  · have hflush := h.content.flush
    rw [taken?_of_nil hq, Option.toList_none, List.append_nil]
    simp only [step, hstep]
    refine ⟨hflush, h.order, fun _ => Writer.buffer_flush _ _, fun hd => ?_⟩
    rcases hp with ⟨-, -, hs⟩ | ⟨-, rfl⟩
    · exact ⟨hs, hq⟩
    · cases hd
  · rw [taken?_of_idle hp, Option.toList_none, List.append_nil]
    simp only [step, hstep]
    exact h

include h in
/-- The writer takes at most one record more. -/
theorem Accounted.write :
    Accounted path (step s .write) drained ∨
      ∃ m, Accounted path (step s .write) (drained ++ [m]) := by
  have htaken := h.taken
  cases hm : s.taken? .write with
  | none =>
    rw [hm, Option.toList_none, List.append_nil] at htaken
    exact .inl htaken
  | some m =>
    rw [hm] at htaken
    exact .inr ⟨m, htaken⟩

end Step

theorem accounted_step {path : String} {s : Session} {drained : List Measurement}
    (h : Accounted path s drained) (e : Event) :
    Accounted path (step s e) (drained ++ (s.taken? e).toList) := by
  cases e with
  | offer m =>
    rw [show s.taken? (.offer m) = none from rfl, Option.toList_none, List.append_nil]
    exact h.offer m
  | cloneSender =>
    rw [show s.taken? .cloneSender = none from rfl, Option.toList_none, List.append_nil]
    exact h.cloneSender
  | dropSender =>
    rw [show s.taken? .dropSender = none from rfl, Option.toList_none, List.append_nil]
    exact h.dropSender
  | write => exact h.taken

/-- What a sequence of events takes out of the channel, in order. -/
def drained (s : Session) : List Event → List Measurement
  | [] => []
  | e :: es => (s.taken? e).toList ++ drained (step s e) es

theorem drained_append (es later : List Event) (s : Session) :
    s.drained (es ++ later) = s.drained es ++ (run s es).drained later := by
  induction es generalizing s with
  | nil => rfl
  | cons e es ih =>
    rw [List.cons_append, drained, drained, ih, List.append_assoc]
    rfl

theorem accounted_drained (es : List Event) {path : String} {s : Session}
    {earlier : List Measurement} (h : Accounted path s earlier) :
    Accounted path (run s es) (earlier ++ s.drained es) := by
  induction es generalizing s earlier with
  | nil =>
    rw [drained, List.append_nil]
    exact h
  | cons e es ih =>
    rw [drained, ← List.append_assoc]
    exact ih (accounted_step h e)

theorem accounted_run (es : List Event) {path : String} {s : Session} {drained : List Measurement}
    (h : Accounted path s drained) : ∃ drained', Accounted path (run s es) drained' :=
  ⟨_, accounted_drained es h⟩

/-! ## The tallies -/

/-- The tallies of the channel and of the writer tell what became of the offers. -/
structure Tallied (s : Session) : Prop where
  counted : Channel.Counted s.channel s.offers
  receiving : s.channel.receiving = true
  written : s.writer.tally.written + s.channel.queue.length = s.accepted.length

theorem tallied_start {fs fs' : FileSystem} {path : String} {w : Writer}
    (h : Writer.create fs path = .ok (w, fs')) (capacity : Nat) :
    Tallied (start w fs' capacity) := by
  refine ⟨Channel.counted_create capacity, rfl, ?_⟩
  unfold Writer.create at h
  split at h <;> cases h
  rfl

section Step
variable {s : Session} (h : Tallied s)

include h in
theorem Tallied.offer (m : Measurement) : Tallied (step s (.offer m)) := by
  by_cases hs : s.channel.senders = 0
  · rw [step, if_pos hs]
    exact h
  · rw [step, if_neg hs]
    refine ⟨h.counted.offer m, (Channel.receiving_offer _ m).trans h.receiving, ?_⟩
    have hw := h.written
    have htaken := Channel.taken_snoc s.offers m (s.channel.offer m).2
    show s.writer.tally.written + (s.channel.offer m).1.queue.length =
      (Channel.taken (s.offers ++ [(m, (s.channel.offer m).2)])).length
    rw [Channel.queue_offer, htaken, List.length_append, List.length_append, ← Nat.add_assoc, hw]
    rfl

include h in
theorem Tallied.write : Tallied (step s .write) := by
  obtain ⟨m, r, hq, -, hstep⟩ | ⟨-, p, hstep, -⟩ | ⟨hstep, -⟩ :=
    s.writer.step_cases s.channel s.files <;> simp only [step, hstep]
  · refine ⟨h.counted.of_tally rfl id, h.receiving, ?_⟩
    have hw := h.written
    rw [hq, List.length_cons] at hw
    have hwrite := Writer.written_write s.writer s.files m
    show (s.writer.write s.files m).1.tally.written + r.length = s.accepted.length
    rw [hwrite, ← hw]
    omega
  · refine ⟨h.counted, h.receiving, ?_⟩
    rw [Writer.tally_flush]
    exact h.written
  · exact h

include h in
theorem tallied_step (e : Event) : Tallied (step s e) := by
  cases e with
  | offer m => exact h.offer m
  | cloneSender =>
    by_cases hs : s.channel.senders = 0
    · rw [step, if_pos hs]
      exact h
    · rw [step, if_neg hs]
      exact ⟨h.counted.of_tally rfl id, h.receiving, h.written⟩
  | dropSender => exact ⟨h.counted.of_tally rfl id, h.receiving, h.written⟩
  | write => exact h.write

end Step

theorem tallied_run (es : List Event) {s : Session} (h : Tallied s) : Tallied (run s es) := by
  induction es generalizing s with
  | nil => exact h
  | cons e es ih => exact ih (tallied_step h e)

/-! ## The end -/

/-- How many steps the writer has still to take when nobody sends any more. -/
def rank (s : Session) : Nat :=
  match s.writer.phase with
  | .done => 0
  | .emptying => s.channel.length + 2
  | .waiting => if s.channel.queue = [] then 1 else s.channel.length + 2

theorem rank_le (s : Session) : s.rank ≤ s.channel.length + 2 := by
  unfold rank
  split
  · exact Nat.zero_le _
  · exact Nat.le_refl _
  · split <;> omega

/-- A writer that is not done comes closer to its end. -/
theorem rank_write {s : Session} (hs : s.channel.senders = 0) (hd : s.writer.phase ≠ .done) :
    (step s .write).channel.senders = 0 ∧ (step s .write).rank < s.rank := by
  rw [step]
  obtain ⟨m, r, hq, -, hstep⟩ | ⟨hq, p, hstep, hp⟩ | ⟨-, hp | ⟨-, hne⟩⟩ :=
    s.writer.step_cases s.channel s.files
  · rw [hstep]
    refine ⟨hs, ?_⟩
    show r.length + 2 < s.rank
    have hrank : s.rank = s.channel.length + 2 := by
      unfold rank
      cases hp : s.writer.phase with
      | done => exact absurd hp hd
      | emptying => rfl
      | waiting => simp [hq]
    rw [hrank, Channel.length, hq, List.length_cons]
    omega
  · rw [hstep]
    refine ⟨hs, ?_⟩
    rcases hp with ⟨hp, rfl, -⟩ | ⟨hp, rfl⟩
    · simp [rank, hp, hq]
    · simp [rank, hp, hq]
  · exact absurd hp hd
  · exact absurd hs hne

theorem write_of_done {s : Session} (hd : s.writer.phase = .done) : step s .write = s := by
  rw [step, Writer.step, hd]

/-- Steps of the writer alone, as many as it needs at most. -/
def finish (s : Session) : Session := run s (List.replicate (s.channel.length + 2) .write)

theorem offers_writes (n : Nat) (s : Session) :
    (run s (List.replicate n .write)).offers = s.offers := by
  induction n generalizing s with
  | zero => rfl
  | succ n ih => exact ih (step s .write)

theorem done_of_rank_le (n : Nat) {s : Session} (hs : s.channel.senders = 0) (hn : s.rank ≤ n) :
    (run s (List.replicate n .write)).writer.phase = .done := by
  induction n generalizing s with
  | zero =>
    show s.writer.phase = .done
    cases hp : s.writer.phase with
    | done => rfl
    | emptying => simp [rank, hp] at hn
    | waiting => cases hq : s.channel.queue <;> simp [rank, hp, hq] at hn
  | succ n ih =>
    rw [List.replicate_succ]
    show (run (step s .write) (List.replicate n .write)).writer.phase = .done
    by_cases hd : s.writer.phase = .done
    · rw [write_of_done hd]
      refine ih hs ?_
      simp [rank, hd]
    · obtain ⟨hs', hlt⟩ := rank_write hs hd
      exact ih hs' (by omega)

/-- When no sender is left, the writer comes to its end. -/
theorem done_of_gone {s : Session} (hs : s.channel.senders = 0) : s.finish.writer.phase = .done :=
  done_of_rank_le _ hs s.rank_le

/-- At its end the writer has put every accepted record in the file, in order. -/
theorem written_of_done {path : String} {s : Session} {drained : List Measurement}
    (h : Accounted path s drained) (hd : s.writer.phase = .done) :
    s.files.lookup path = .ok (.file (s.accepted.flatMap Writer.lineBytes)) := by
  have horder := h.order
  rw [(h.ended hd).2, List.append_nil] at horder
  rw [← horder]
  exact h.content.lookup (h.flushed (by rw [hd]; decide))

end Session

end Volley.Phout
