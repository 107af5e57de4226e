import Volley.Proofs.Phout.Line
import Volley.Proofs.Phout.Session
import Volley.Proofs.Phout.Tail

/-!
# From the writer to the reader

What a writer puts in a file, a reader of the file hands out: `reads_back` puts the session of a
writer, the file it leaves and the reader on that file together. On the way a measurement loses what
a line does not hold (`Phout.recorded`), and what follows the last number sign of its tag.
-/
namespace Volley.Phout

/-- The lines of measurements as bytes, read in one piece. -/
theorem contents_lineBytes {ms : List Measurement} (h : ∀ m ∈ ms, Regular m.sentAt) :
    contents (ms.flatMap Writer.lineBytes) = (ms.map fun m => normalized (recorded m), 0) := by
  have hbytes : ms.flatMap Writer.lineBytes = Text.Utf8.encode (ms.flatMap render) := by
    rw [Text.Utf8.encode, List.flatMap_assoc]
    rfl
  rw [contents, hbytes, Text.Utf8.decodeLossy_encode, parseAll_render h]

/-- A new handle on a file stands at its start, and nobody holds it. -/
theorem ofPath_of_lookup {fs : FileSystem} {path : String} {bytes : List UInt8}
    (h : fs.lookup path = .ok (.file bytes)) (chance : Chance) :
    ∃ f, SharedFile.ofPath fs path chance = .ok f ∧ f.content = some bytes ∧ f.isOpen = true ∧
      f.isHeld = false := by
  unfold SharedFile.ofPath
  rw [h]
  exact ⟨_, rfl, rfl, rfl, rfl⟩

/-- A reader that starts when the producer has stopped hands out all of the file. -/
theorem Tail.reads_all {f : SharedFile} {content : List UInt8} (hc : f.content = some content)
    (hopen : f.isOpen = true) (hfree : f.isHeld = false)
    (hfits : content.length + 32 < SharedFile.positionLimit) (cacheSize : Option Nat) :
    ∃ n, ∃ parts : List (List Measurement), parts.flatten = (contents content).1 ∧
      ∀ k, (run (start f cacheSize) (.stop :: List.replicate (n + 1 + k) .next)).answers =
          parts.map (fun ms => .ok (some ms)) ++ List.replicate (1 + k) (.ok none) ∧
        (run (start f cacheSize) (.stop :: List.replicate (n + 1 + k) .next)).reader.malformed =
          (contents content).2 := by
  have h := (reading_start f cacheSize).concludes (smooth_calls hopen hfree hc [] hfits cacheSize)
  rw [show (start f cacheSize).file.bytes = content from bytes_of_content hc] at h
  exact h

/-- **What was written is read back.** All records that a channel took while its senders came and
went are handed out again, in order, when the writer has come to its end, whatever the size of the
chunks: each with its time cut to the millisecond, under the base name of its tag, in which tabs and
line ends have become blanks. No line is malformed. `hfits` says that the file can be as long. -/
theorem reads_back {fs files : FileSystem} {path : String} {w : Writer}
    (hcreate : Writer.create fs path = .ok (w, files)) (capacity : Nat) (es : List Session.Event)
    (ms : List Measurement)
    (htaken : (Session.run (.start w files capacity) es).offers = ms.map fun m => (m, true))
    (hgone : (Session.run (.start w files capacity) es).channel.senders = 0)
    (hregular : ∀ m ∈ ms, Regular m.sentAt)
    (hfits : (ms.flatMap Writer.lineBytes).length + 32 < SharedFile.positionLimit)
    (chance : Chance) (cacheSize : Option Nat) :
    let s := (Session.run (.start w files capacity) es).finish
    s.writer.phase = .done ∧
      ∃ f, SharedFile.ofPath s.files path chance = .ok f ∧
        ∃ n, ∃ parts : List (List Measurement),
          (parts.flatten = ms.map fun m =>
            { m with
              sentAt := m.sentAt.truncated
              tag := Missile.baseName (.ofList (plainTag m.tag.toList)) }) ∧
          ∀ k, (Tail.run (.start f cacheSize)
              (.stop :: List.replicate (n + 1 + k) .next)).answers =
              parts.map (fun ms => .ok (some ms)) ++ List.replicate (1 + k) (.ok none) ∧
            (Tail.run (.start f cacheSize)
              (.stop :: List.replicate (n + 1 + k) .next)).reader.malformed = 0 := by
  intro s
  have hdone : s.writer.phase = .done := Session.done_of_gone hgone
  obtain ⟨drained, hstart⟩ := Session.accounted_run es (Session.accounted_start hcreate capacity)
  obtain ⟨drained', hacc⟩ := Session.accounted_run (List.replicate _ .write) hstart
  have haccepted : s.accepted = ms :=
    Session.accepted_of_offers ((Session.offers_writes _ _).trans htaken)
  have hlookup := Session.written_of_done (s := s) hacc hdone
  rw [haccepted] at hlookup
  obtain ⟨f, hf, hc, hopen, hfree⟩ := ofPath_of_lookup hlookup chance
  obtain ⟨n, parts, hparts, hall⟩ := Tail.reads_all hc hopen hfree hfits cacheSize
  rw [contents_lineBytes hregular] at hparts hall
  exact ⟨hdone, f, hf, n, parts, hparts, hall⟩

/-- A writer at an empty file. -/
def newWriter : Writer := ⟨"phout.log", ["phout.log"], [], ⟨0, 0⟩, .waiting⟩

/-- The files that `newWriter` starts with. -/
def newFiles : FileSystem := ⟨[(["phout.log"], .file [])]⟩

/-- A shot before 1970, with a tag that would break a line. -/
def earlyShot : Measurement :=
  { Tail.shot with sentAt := ⟨-2, 999999999⟩, tag := "é\t\r\nü#7#1" }

/-- A shot without a tag, with the lowest code. -/
def failedShot : Measurement :=
  { Tail.shot with sentAt := ⟨1700000000, 5⟩, tag := "", netCode := -2147483648 }

/-- Two senders, one of which goes while the writer is at work. -/
def twoSenders : List Session.Event :=
  [.cloneSender, .write, .offer earlyShot, .write, .dropSender, .write, .offer failedShot,
    .dropSender]

theorem reads_back_twoSenders :
    (Writer.create .empty "phout.log" = .ok (newWriter, newFiles) ∧
      (Session.run (.start newWriter newFiles 1) twoSenders).offers =
        [earlyShot, failedShot].map (fun m => (m, true)) ∧
      (Session.run (.start newWriter newFiles 1) twoSenders).channel.senders = 0 ∧
      (∀ m ∈ [earlyShot, failedShot], Regular m.sentAt) ∧
      ([earlyShot, failedShot].flatMap Writer.lineBytes).length + 32 < SharedFile.positionLimit) ∧
    ∃ f, SharedFile.ofPath (Session.run (.start newWriter newFiles 1) twoSenders).finish.files
          "phout.log" (.constant 0) = .ok f ∧
      ∃ n, ∃ parts : List (List Measurement),
        parts.flatten = [{ earlyShot with sentAt := ⟨-2, 999000000⟩, tag := "é   ü#7" },
          { failedShot with sentAt := ⟨1700000000, 0⟩ }] ∧
        (Tail.run (.start f (some 3)) (.stop :: List.replicate (n + 1) .next)).answers =
          parts.map (fun ms => .ok (some ms)) ++ [.ok none] := by
  have hcreate : Writer.create .empty "phout.log" = .ok (newWriter, newFiles) :=
    ok_of_toOption (by decide +kernel)
  have htaken : (Session.run (.start newWriter newFiles 1) twoSenders).offers =
      [earlyShot, failedShot].map fun m => (m, true) := by decide +kernel
  have hgone : (Session.run (.start newWriter newFiles 1) twoSenders).channel.senders = 0 := by
    decide +kernel
  have hregular : ∀ m ∈ [earlyShot, failedShot], Regular m.sentAt := by
    intro m hm
    simp only [List.mem_cons, List.not_mem_nil, or_false] at hm
    rcases hm with rfl | rfl <;> exact ⟨by decide, by decide, by decide⟩
  have hfits : ([earlyShot, failedShot].flatMap Writer.lineBytes).length + 32 <
      SharedFile.positionLimit := by decide +kernel
  obtain ⟨-, f, hf, n, parts, hparts, hall⟩ :=
    reads_back hcreate 1 twoSenders _ htaken hgone hregular hfits (.constant 0) (some 3)
  refine ⟨⟨hcreate, htaken, hgone, hregular, hfits⟩, f, hf, n, parts, ?_, (hall 0).1⟩
  rw [hparts]
  decide +kernel

end Volley.Phout
