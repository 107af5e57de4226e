import Volley.SharedFile.Cursor

/-!
# What a read takes from a file

`SharedFile.readMoving` moves the one handle to the reader's position and requests bytes from there,
a line by blocks of `lineBlock` bytes. Here its effect is put in terms of the file's bytes alone
(`bytesAt`): the bytes read do not depend on where the handle stood, and nothing of the file but the
handle's place changes.

* `requestLine_fst`: blocks of any file make up exactly the bytes through the next line feed.
* `readMoving_cases`: a read under the lock fails, or finds `bytesAt`.
* `Cursor.readAfter_cases`: the same for a cursor, which moves by what was found.
* `Cursor.readAfter_of_beside`: two files that differ in the handle's place answer alike.
-/
namespace Volley.SharedFile

/-! ## The bytes through a line feed -/

theorem throughLine_append {s : List UInt8} (h : 10 ∈ s) (t : List UInt8) :
    throughLine (s ++ t) = throughLine s := by
  induction s with
  | nil => cases h
  | cons b r ih =>
    simp only [List.cons_append, throughLine]
    split
    · rfl
    · rename_i hb
      rcases List.mem_cons.mp h with e | hr
      · exact absurd e.symm hb
      · rw [ih hr]

theorem throughLine_append_of_not_mem {s : List UInt8} (h : 10 ∉ s) (t : List UInt8) :
    throughLine (s ++ t) = s ++ throughLine t := by
  induction s with
  | nil => rfl
  | cons b r ih =>
    rw [List.mem_cons, not_or] at h
    simp only [List.cons_append, throughLine, if_neg (Ne.symm h.1), ih h.2]

/-- A line is a beginning of the text. -/
theorem take_throughLine (s : List UInt8) : s.take (throughLine s).length = throughLine s := by
  induction s with
  | nil => rfl
  | cons b r ih =>
    rw [throughLine]
    split
    · simp
    · simp [ih]

theorem throughLine_eq_nil {s : List UInt8} : throughLine s = [] ↔ s = [] := by
  cases s with
  | nil => simp [throughLine]
  | cons b r => simp only [throughLine, reduceCtorEq, iff_false]; split <;> simp

/-! ## Requests -/

/-- `g` is `f` but for where the handle stands. -/
def Beside (f g : SharedFile) : Prop := ∃ o, g = f.seek o

theorem Beside.refl (f : SharedFile) : Beside f f := ⟨f.offset, rfl⟩

theorem Beside.trans {f g h : SharedFile} (h1 : Beside f g) (h2 : Beside g h) : Beside f h := by
  obtain ⟨o, rfl⟩ := h1
  obtain ⟨p, rfl⟩ := h2
  exact ⟨p, rfl⟩

theorem Beside.symm {f g : SharedFile} (h : Beside f g) : Beside g f := by
  obtain ⟨o, rfl⟩ := h
  exact ⟨f.offset, rfl⟩

theorem Beside.isHeld {f g : SharedFile} (h : Beside f g) : g.isHeld = f.isHeld := by
  obtain ⟨o, rfl⟩ := h
  rfl

theorem request_beside (f : SharedFile) (count : Nat) : Beside f (f.request count).2 :=
  ⟨f.offset + ((f.bytes.drop f.offset).take count).length, rfl⟩

theorem requestLine_beside (f : SharedFile) : Beside f f.requestLine.2 := by
  fun_induction requestLine f with
  | case1 f block h => exact request_beside f lineBlock
  | case2 f block h more ih => exact (request_beside f lineBlock).trans ih

theorem fetch_beside (f : SharedFile) (mode : ReadMode) : Beside f (f.fetch mode).2 := by
  cases mode with
  | bytes count => exact request_beside f count
  | line => exact requestLine_beside f

/-- A block without a line feed is followed by the rest of the line. -/
theorem requestLine_fst (f : SharedFile) :
    f.requestLine.1 = throughLine (f.bytes.drop f.offset) := by
  fun_induction requestLine f with
  | case1 f block h =>
    have hsplit := List.take_append_drop lineBlock (f.bytes.drop f.offset)
    rcases h with h | h
    · have hnil : f.bytes.drop f.offset = [] := by
        have := List.take_eq_nil_iff.mp h
        simpa [lineBlock] using this
      simp only [h, hnil]
    · exact ((congrArg throughLine hsplit).symm.trans (throughLine_append h _)).symm
  | case2 f block h more ih =>
    have hno : 10 ∉ block.1 := fun e => h (.inr e)
    have hrest : block.2.bytes.drop block.2.offset = (f.bytes.drop f.offset).drop lineBlock := by
      show f.bytes.drop (f.offset + ((f.bytes.drop f.offset).take lineBlock).length) = _
      rw [← List.drop_drop, List.length_take]
      rcases Nat.le_total lineBlock (f.bytes.drop f.offset).length with hle | hle
      · rw [Nat.min_eq_left hle]
      · rw [Nat.min_eq_right hle, List.drop_length, List.drop_eq_nil_of_le hle]
    rw [ih, hrest, ← throughLine_append_of_not_mem hno]
    exact congrArg throughLine (List.take_append_drop lineBlock _)

/-- The bytes that a read finds at a position. -/
def bytesAt (content : List UInt8) (position : Nat) : ReadMode → List UInt8
  | .bytes count => (content.drop position).take count
  | .line => throughLine (content.drop position)

/-- What is read does not depend on where the handle stood. -/
theorem fetch_seek (f : SharedFile) (position : Nat) (mode : ReadMode) :
    ((f.seek position).fetch mode).1 = bytesAt f.bytes position mode := by
  cases mode with
  | bytes count => rfl
  | line => exact requestLine_fst (f.seek position)

/-- The bytes found follow those before the position. -/
theorem take_bytesAt (content : List UInt8) (position : Nat) (mode : ReadMode) :
    content.take (position + (bytesAt content position mode).length) =
      content.take position ++ bytesAt content position mode := by
  rw [List.take_add]
  congr 1
  cases mode with
  | bytes count => simp [bytesAt]
  | line => exact take_throughLine _

theorem add_length_bytesAt_le (content : List UInt8) {position : Nat} (mode : ReadMode)
    (h : position ≤ content.length) :
    position + (bytesAt content position mode).length ≤ content.length := by
  have := congrArg List.length (take_bytesAt content position mode)
  simp only [List.length_take, List.length_append] at this
  omega

/-- A read that asks for something finds nothing only at the end. -/
theorem bytesAt_eq_nil {content : List UInt8} {position : Nat} {mode : ReadMode}
    (hmode : mode ≠ .bytes 0) : bytesAt content position mode = [] ↔ content.length ≤ position := by
  cases mode with
  | bytes count =>
    have hpos : count ≠ 0 := fun e => hmode (by rw [e])
    simp [bytesAt, hpos]
  | line => simp [bytesAt, throughLine_eq_nil]

/-! ## Reads under the lock -/

/-- A read under the lock fails, or finds the bytes at its position. -/
theorem readMoving_cases (f : SharedFile) (stopped : Bool) (position : Nat) (mode : ReadMode) :
    ∃ g, Beside f g ∧
      ((∃ e, f.readMoving stopped position mode = (.error e, g)) ∨
        f.readMoving stopped position mode =
          (.ok (chunkOf stopped (bytesAt f.bytes position mode),
            position + (bytesAt f.bytes position mode).length), g)) := by
  unfold readMoving
  split
  · exact ⟨f, .refl f, .inl ⟨_, rfl⟩⟩
  · rw [← fetch_seek]
    exact ⟨_, Beside.trans ⟨position, rfl⟩ (fetch_beside (f.seek position) mode), .inr rfl⟩

/-- What a reader can do to the file: nothing but move its handle and, when it gives up on the lock,
count its attempts. -/
structure Kept (f g : SharedFile) : Prop where
  content : g.content = f.content
  stopped : g.stopped = f.stopped
  beside : f.isHeld = false → Beside f g

theorem Beside.kept {f g : SharedFile} (h : Beside f g) : Kept f g := by
  obtain ⟨o, rfl⟩ := h
  exact ⟨rfl, rfl, fun _ => ⟨o, rfl⟩⟩

theorem Kept.bytes {f g : SharedFile} (h : Kept f g) : g.bytes = f.bytes := by
  rw [SharedFile.bytes, SharedFile.bytes, h.content]

theorem acquire_of_free {f : SharedFile} (h : f.isHeld = false) : f.acquire = (.ok (), f) := by
  unfold acquire
  rw [if_neg (by rw [h]; exact Bool.false_ne_true)]

/-- Giving up on the lock counts the attempts. -/
theorem acquire_of_held {f : SharedFile} (h : f.isHeld = true) :
    ∃ e n chance, f.acquire = (.error e, { f with contention := f.contention + n, chance }) := by
  unfold acquire
  rw [if_pos h]
  generalize f.policy.attempts f.chance = drawn
  obtain ⟨n, chance⟩ := drawn
  exact ⟨_, n, chance, rfl⟩

theorem readAfter_of_free {f : SharedFile} (h : f.isHeld = false) (stopped : Bool)
    (position : Nat) (mode : ReadMode) :
    f.readAfter stopped position mode = f.readMoving stopped position mode := by
  unfold readAfter
  rw [acquire_of_free h]

/-- A read fails, or finds the bytes at its position. -/
theorem readAfter_cases (f : SharedFile) (stopped : Bool) (position : Nat) (mode : ReadMode) :
    ∃ g, Kept f g ∧
      ((∃ e, f.readAfter stopped position mode = (.error e, g)) ∨
        f.readAfter stopped position mode =
          (.ok (chunkOf stopped (bytesAt f.bytes position mode),
            position + (bytesAt f.bytes position mode).length), g)) := by
  cases hh : f.isHeld with
  | true =>
    obtain ⟨e, n, chance, ha⟩ := acquire_of_held hh
    refine ⟨_, ⟨?_, ?_, fun h => ?_⟩, .inl ⟨e, by rw [readAfter, ha]⟩⟩
    · rfl
    · rfl
    · rw [hh] at h; cases h
  | false =>
    obtain ⟨g, hg, hr⟩ := readMoving_cases f stopped position mode
    rw [readAfter_of_free hh]
    exact ⟨g, hg.kept, hr⟩

/-- Two handles that stand at different places answer alike. -/
theorem readAfter_of_beside {f g : SharedFile} (h : Beside f g) (hf : f.isHeld = false)
    (stopped : Bool) (position : Nat) (mode : ReadMode) :
    (g.readAfter stopped position mode).1 = (f.readAfter stopped position mode).1 := by
  obtain ⟨o, rfl⟩ := h
  rw [readAfter_of_free hf, readAfter_of_free (f := f.seek o) hf]
  have hfault : (f.seek o).fault? position mode = f.fault? position mode := rfl
  unfold readMoving
  rw [hfault]
  cases f.fault? position mode <;> rfl

/-- An open file is read without a fault below the positions that a file cannot have. -/
theorem fault?_eq_none {f : SharedFile} {content : List UInt8} (hopen : f.isOpen = true)
    (hc : f.content = some content) {position : Nat} {mode : ReadMode}
    (hlt : position + firstRequest mode < positionLimit) : f.fault? position mode = none := by
  have hr : f.refusal? position mode = none := by
    unfold refusal?
    dsimp only
    rw [if_neg (by omega), hc]
    by_cases h0 : firstRequest mode = 0
    · rw [if_pos h0]
    · rw [if_neg h0, if_neg (by omega)]
      rfl
  unfold fault?
  rw [hopen, hr]
  rfl

end Volley.SharedFile

namespace Volley.Cursor

open SharedFile

/-- A read fails and leaves the cursor, or finds the bytes at the cursor and moves it past them. -/
theorem readAfter_cases (c : Cursor) (f : SharedFile) (stopped : Bool) (mode : ReadMode) :
    ∃ g, Kept f g ∧
      ((∃ e, c.readAfter f stopped mode = (.error e, c, g)) ∨
        c.readAfter f stopped mode =
          (.ok (chunkOf stopped (bytesAt f.bytes c.position mode)),
            { c with position := c.position + (bytesAt f.bytes c.position mode).length }, g)) := by
  obtain ⟨g, hg, ⟨e, hr⟩ | hr⟩ := SharedFile.readAfter_cases f stopped c.position mode
  · exact ⟨g, hg, .inl ⟨e, by rw [readAfter, hr]⟩⟩
  · exact ⟨g, hg, .inr (by rw [readAfter, hr])⟩

theorem readAfter_of_beside (c : Cursor) {f g : SharedFile} (h : Beside f g)
    (hf : f.isHeld = false) (stopped : Bool) (mode : ReadMode) :
    (c.readAfter g stopped mode).1 = (c.readAfter f stopped mode).1 ∧
      (c.readAfter g stopped mode).2.1 = (c.readAfter f stopped mode).2.1 := by
  have he := SharedFile.readAfter_of_beside h hf stopped c.position mode
  simp only [readAfter]
  generalize f.readAfter stopped c.position mode = a at he ⊢
  generalize g.readAfter stopped c.position mode = b at he ⊢
  obtain ⟨r, f'⟩ := a
  obtain ⟨r', g'⟩ := b
  subst he
  cases r' <;> exact ⟨rfl, rfl⟩

/-- A read that nothing speaks against does not fail. -/
theorem readAfter_isOk {c : Cursor} {f : SharedFile} (free : f.isHeld = false) {mode : ReadMode}
    (h : f.fault? c.position mode = none) (stopped : Bool) :
    ∃ chunk, (c.readAfter f stopped mode).1 = .ok chunk := by
  unfold readAfter
  rw [readAfter_of_free free, readMoving, h]
  exact ⟨_, rfl⟩

end Volley.Cursor
