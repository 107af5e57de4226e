import Volley.Proofs.SharedFile.Reads

/-!
# Cursors that share one growing file

Any number of tasks read one file through cursors of their own, while a producer appends to it and
at some time raises the stop signal. A call of a task is two steps: it looks at the stop signal, and
later takes the lock and reads. Between the two, and between any two calls, anyone else may step.

* `given_eq_take`: whatever the order of steps, a cursor's data are the bytes before its position,
  none lost, repeated or from elsewhere, and no step of a task is seen by another.
* `finished_at_end`: a cursor is told that nothing follows only when it has delivered every byte
  that the producer ever appends.

A run is a list of events. An event that is not possible (a task that does not exist, a second look,
a read without a look) changes nothing, so every list stands for a run.
-/
namespace Volley.Sharing

open SharedFile

/-- What a task asks its cursor for. -/
inductive Call where
  /-- At most so many bytes, by default as many as the cursor's cache holds. -/
  | read (count : Option Nat)
  | readLine
  deriving DecidableEq, Repr

def Call.mode (c : Cursor) : Call → ReadMode
  | .read count => .bytes (count.getD c.cacheSize)
  | .readLine => .line

inductive Phase where
  | idle
  /-- Has found the stop signal at `stopped`, and is about to read. -/
  | looked (stopped : Bool) (call : Call)
  deriving DecidableEq, Repr

structure Task where
  cursor : Cursor
  phase : Phase
  /-- What its calls answered, in order. -/
  answers : List (Except Fault Chunk)

structure State where
  file : SharedFile
  tasks : List Task

inductive Event where
  | append (bytes : List UInt8)
  | stop
  /-- One more cursor on the file. -/
  | join (cacheSize : Option Nat)
  | look (i : Nat) (call : Call)
  | read (i : Nat)
  deriving DecidableEq, Repr

namespace Task

def look (t : Task) (stopped : Bool) (call : Call) : Task :=
  match t.phase with
  | .idle => { t with phase := .looked stopped call }
  | .looked .. => t

/-- The rest of the call. With nothing in between, the two steps are `Cursor.readAs`. -/
def read (t : Task) (f : SharedFile) : Task × SharedFile :=
  match t.phase with
  | .idle => (t, f)
  | .looked stopped call =>
    let (answer, cursor, f) := t.cursor.readAfter f stopped (call.mode t.cursor)
    (⟨cursor, .idle, t.answers ++ [answer]⟩, f)

/-- The bytes of an answer. -/
def payload : Except Fault Chunk → List UInt8
  | .ok chunk => chunk.bytes?.getD []
  | .error _ => []

/-- The data of all its answers, one behind the other. -/
def given (t : Task) : List UInt8 := t.answers.flatMap payload

end Task

def start (f : SharedFile) : State := ⟨f, []⟩

/-- Task `i` acts on the file. -/
def onTask (s : State) (i : Nat) (act : Task → SharedFile → Task × SharedFile) : State :=
  match s.tasks[i]? with
  | none => s
  | some t => ⟨(act t s.file).2, s.tasks.set i (act t s.file).1⟩

def step (s : State) : Event → State
  | .append bytes => { s with file := s.file.append bytes }
  | .stop => { s with file := s.file.stop }
  | .join cacheSize =>
    { s with tasks := s.tasks ++ [⟨Cursor.ofFile s.file cacheSize, .idle, []⟩] }
  | .look i call => onTask s i fun t f => (t.look f.stopped call, f)
  | .read i => onTask s i Task.read

def run (s : State) (es : List Event) : State := es.foldl step s

theorem run_append (s : State) (es later : List Event) :
    run s (es ++ later) = run (run s es) later := List.foldl_append

/-! ## Calls -/

theorem look_frame (t : Task) (stopped : Bool) (call : Call) :
    (t.look stopped call).cursor = t.cursor ∧ (t.look stopped call).answers = t.answers := by
  unfold Task.look
  split <;> exact ⟨rfl, rfl⟩

/-- What a read can do: nothing, fail, or deliver the bytes at the cursor. -/
theorem read_cases (t : Task) (f : SharedFile) :
    (t.phase = .idle ∧ t.read f = (t, f)) ∨
    ∃ stopped call g, t.phase = .looked stopped call ∧ Kept f g ∧
      ((∃ e, t.read f = (⟨t.cursor, .idle, t.answers ++ [.error e]⟩, g)) ∨
        t.read f =
          (⟨{ t.cursor with position := t.cursor.position +
                (bytesAt f.bytes t.cursor.position (call.mode t.cursor)).length }, .idle,
            t.answers ++
              [.ok (chunkOf stopped (bytesAt f.bytes t.cursor.position (call.mode t.cursor)))]⟩,
            g)) := by
  cases hp : t.phase with
  | idle => exact .inl ⟨rfl, by simp only [Task.read, hp]⟩
  | looked stopped call =>
    obtain ⟨g, hg, ⟨e, hr⟩ | hr⟩ := t.cursor.readAfter_cases f stopped (call.mode t.cursor)
    · exact .inr ⟨stopped, call, g, rfl, hg, .inl ⟨e, by simp only [Task.read, hp, hr]⟩⟩
    · exact .inr ⟨stopped, call, g, rfl, hg, .inr (by simp only [Task.read, hp, hr])⟩

theorem read_kept (t : Task) (f : SharedFile) : Kept f (t.read f).2 := by
  rcases read_cases t f with ⟨-, h⟩ | ⟨_, _, g, -, hg, ⟨e, h⟩ | h⟩ <;> rw [h]
  · exact (Beside.refl f).kept
  · exact hg
  · exact hg

theorem forall_onTask {P : Task → Prop} {s : State} {i : Nat}
    {act : Task → SharedFile → Task × SharedFile} (h : ∀ t ∈ s.tasks, P t)
    (hact : ∀ t, P t → P (act t s.file).1) : ∀ t ∈ (onTask s i act).tasks, P t := by
  unfold onTask
  split
  · exact h
  · rename_i t₀ h₀
    intro t ht
    rcases List.mem_or_eq_of_mem_set ht with ht | rfl
    · exact h t ht
    · exact hact t₀ (h t₀ (List.mem_of_getElem? h₀))

/-- What holds of every task still does if a new cursor, a look and a read keep it. -/
theorem forall_step {P : Task → Prop} {s : State} {e : Event} (h : ∀ t ∈ s.tasks, P t)
    (join : ∀ cacheSize, P ⟨Cursor.ofFile s.file cacheSize, .idle, []⟩)
    (look : ∀ i call t, e = .look i call → P t → P (t.look s.file.stopped call))
    (read : ∀ t, P t → P (t.read s.file).1) : ∀ t ∈ (step s e).tasks, P t := by
  cases e with
  | append bytes => exact h
  | stop => exact h
  | join cacheSize =>
    intro t ht
    rcases List.mem_append.mp ht with ht | ht
    · exact h t ht
    · rw [List.mem_singleton.mp ht]
      exact join cacheSize
  | look i call => exact forall_onTask h fun t => look i call t rfl
  | read i => exact forall_onTask h read

/-! ## What cursors deliver -/

/-- A task has been given exactly the bytes before its position. -/
structure Faithful (content : List UInt8) (t : Task) : Prop where
  given : t.given = content.take t.cursor.position
  inside : t.cursor.position ≤ content.length
  solid : .ok (.data []) ∉ t.answers

theorem payload_chunkOf (stopped : Bool) (bytes : List UInt8) :
    Task.payload (.ok (chunkOf stopped bytes)) = bytes := by
  unfold chunkOf
  split
  · rfl
  · rename_i h
    rw [Decidable.not_not] at h
    cases stopped <;> exact h.symm

theorem chunkOf_ne_data_nil (stopped : Bool) (bytes : List UInt8) :
    chunkOf stopped bytes ≠ .data [] := by
  unfold chunkOf
  split
  · rename_i h
    exact fun e => h (Chunk.data.inj e)
  · cases stopped <;> exact Chunk.noConfusion

theorem chunkOf_eq_finished {stopped : Bool} {bytes : List UInt8} :
    chunkOf stopped bytes = .finished ↔ bytes = [] ∧ stopped = true := by
  unfold chunkOf
  by_cases h : bytes = [] <;> cases stopped <;> simp [h]

theorem given_snoc (c : Cursor) (p : Phase) (answers : List (Except Fault Chunk))
    (a : Except Fault Chunk) :
    Task.given ⟨c, p, answers ++ [a]⟩ = answers.flatMap Task.payload ++ Task.payload a := by
  simp [Task.given]

theorem Faithful.fresh (content : List UInt8) (f : SharedFile) (cacheSize : Option Nat) :
    Faithful content ⟨Cursor.ofFile f cacheSize, .idle, []⟩ :=
  ⟨by simp [Task.given, Cursor.ofFile], by simp [Cursor.ofFile], by simp⟩

theorem Faithful.append {content : List UInt8} {t : Task} (h : Faithful content t)
    (more : List UInt8) : Faithful (content ++ more) t where
  given := by rw [h.given, List.take_append_of_le_length h.inside]
  inside := by have := h.inside; rw [List.length_append]; omega
  solid := h.solid

theorem Faithful.look {content : List UInt8} {t : Task} (h : Faithful content t) (stopped : Bool)
    (call : Call) : Faithful content (t.look stopped call) := by
  obtain ⟨hc, ha⟩ := look_frame t stopped call
  exact ⟨by rw [Task.given, ha, hc]; exact h.given, by rw [hc]; exact h.inside,
    by rw [ha]; exact h.solid⟩

theorem Faithful.read {f : SharedFile} {t : Task} (h : Faithful f.bytes t) :
    Faithful f.bytes (t.read f).1 := by
  rcases read_cases t f with ⟨-, hr⟩ | ⟨stopped, call, g, -, -, ⟨e, hr⟩ | hr⟩ <;> rw [hr]
  · exact h
  · exact ⟨by rw [given_snoc, Task.payload, List.append_nil]; exact h.given, h.inside,
      by simpa using h.solid⟩
  · refine ⟨?_, add_length_bytesAt_le _ _ h.inside, ?_⟩
    · rw [given_snoc, payload_chunkOf, take_bytesAt, ← h.given, Task.given]
    · intro hm
      rcases List.mem_append.mp hm with hm | hm
      · exact h.solid hm
      · exact chunkOf_ne_data_nil _ _ (Except.ok.inj (List.mem_singleton.mp hm)).symm

theorem bytes_append (f : SharedFile) (more : List UInt8) :
    ∃ added, (f.append more).bytes = f.bytes ++ added := by
  cases hc : f.content with
  | none => exact ⟨[], by simp [SharedFile.append, SharedFile.bytes, hc]⟩
  | some bytes => exact ⟨more, by simp [SharedFile.append, SharedFile.bytes, hc]⟩

theorem kept_onTask (s : State) (i : Nat) {act : Task → SharedFile → Task × SharedFile}
    (hact : ∀ t, Kept s.file (act t s.file).2) : Kept s.file (onTask s i act).file := by
  unfold onTask
  split
  · exact (Beside.refl _).kept
  · exact hact _

/-- Only the producer changes the file, and its bytes only behind those that are there. -/
theorem file_step (s : State) (e : Event) :
    (∃ more, e = .append more ∧ (step s e).file = s.file.append more) ∨
    (e = .stop ∧ (step s e).file = s.file.stop) ∨
    ((∀ more, e ≠ .append more) ∧ e ≠ .stop ∧ Kept s.file (step s e).file) := by
  cases e with
  | append more => exact .inl ⟨more, rfl, rfl⟩
  | stop => exact .inr (.inl ⟨rfl, rfl⟩)
  | join cacheSize => exact .inr (.inr ⟨nofun, nofun, (Beside.refl _).kept⟩)
  | look i call =>
    exact .inr (.inr ⟨nofun, nofun, kept_onTask s i fun _ => (Beside.refl _).kept⟩)
  | read i => exact .inr (.inr ⟨nofun, nofun, kept_onTask s i fun t => read_kept t s.file⟩)

theorem bytes_step (s : State) (e : Event) :
    ∃ added, (step s e).file.bytes = s.file.bytes ++ added := by
  rcases file_step s e with ⟨more, -, h⟩ | ⟨-, h⟩ | ⟨-, -, h⟩
  · rw [h]
    exact bytes_append s.file more
  · exact ⟨[], by rw [h, List.append_nil]; rfl⟩
  · exact ⟨[], by rw [h.bytes, List.append_nil]⟩

theorem faithful_step {s : State} (h : ∀ t ∈ s.tasks, Faithful s.file.bytes t) (e : Event) :
    ∀ t ∈ (step s e).tasks, Faithful (step s e).file.bytes t := by
  obtain ⟨added, hb⟩ := bytes_step s e
  intro t ht
  rw [hb]
  refine Faithful.append ?_ added
  exact forall_step h (fun n => .fresh _ _ n) (fun _ call _ _ ht => ht.look _ call)
    (fun _ ht => ht.read) t ht

theorem faithful_run (es : List Event) {s : State} (h : ∀ t ∈ s.tasks, Faithful s.file.bytes t) :
    ∀ t ∈ (run s es).tasks, Faithful (run s es).file.bytes t := by
  induction es generalizing s with
  | nil => exact h
  | cons e es ih => exact ih (faithful_step h e)

/-! ## What tasks see of each other -/

/-- The task that steps, if the event is one of a task. -/
def Event.task? : Event → Option Nat
  | .look i _ => some i
  | .read i => some i
  | _ => none

/-- The same for task `i`: its cursor, its answers, and all of the file that it can see. -/
structure Alike (i : Nat) (s u : State) : Prop where
  free : s.file.isHeld = false
  file : Beside s.file u.file
  count : u.tasks.length = s.tasks.length
  task : u.tasks[i]? = s.tasks[i]?

/-- What a task does on a free file: it sees nothing of where the handle stands, and moves nothing
but the handle. -/
structure Discreet (act : Task → SharedFile → Task × SharedFile) : Prop where
  blind : ∀ t {f g}, f.isHeld = false → Beside f g → (act t g).1 = (act t f).1
  beside : ∀ t {f}, f.isHeld = false → Beside f (act t f).2

theorem discreet_look (call : Call) : Discreet fun t f => (t.look f.stopped call, f) where
  blind t f g _ h := by
    obtain ⟨o, rfl⟩ := h
    rfl
  beside t f _ := .refl f

theorem discreet_read : Discreet Task.read where
  blind t f g hf h := by
    cases hp : t.phase with
    | idle => simp only [Task.read, hp]
    | looked stopped call =>
      obtain ⟨h1, h2⟩ := t.cursor.readAfter_of_beside h hf stopped (call.mode t.cursor)
      simp only [Task.read, hp, h1, h2]
  beside t f hf := (read_kept t f).beside hf

section OnTask
variable {act : Task → SharedFile → Task × SharedFile} (hact : Discreet act) {s : State}
  (free : s.file.isHeld = false)

theorem length_onTask (s : State) (i : Nat) (act : Task → SharedFile → Task × SharedFile) :
    (onTask s i act).tasks.length = s.tasks.length := by
  unfold onTask
  split <;> simp

include hact free in
theorem beside_onTask (i : Nat) : Beside s.file (onTask s i act).file := by
  unfold onTask
  split
  · exact .refl _
  · exact hact.beside _ free

theorem getElem?_onTask_ne {i j : Nat} (h : i ≠ j) :
    (onTask s j act).tasks[i]? = s.tasks[i]? := by
  unfold onTask
  split
  · rfl
  · exact List.getElem?_set_ne (Ne.symm h)

theorem getElem?_onTask_self (i : Nat) :
    (onTask s i act).tasks[i]? = s.tasks[i]?.map fun t => (act t s.file).1 := by
  unfold onTask
  cases h : s.tasks[i]? with
  | none => exact h
  | some t => exact List.getElem?_set_self (List.getElem?_eq_some_iff.mp h).1

/-- An act of another task goes unseen. -/
theorem alike_other (hact : Discreet act) (free : s.file.isHeld = false) {i j : Nat}
    (h : i ≠ j) : Alike i s (onTask s j act) :=
  ⟨free, beside_onTask hact free j, length_onTask s j act, getElem?_onTask_ne h⟩

/-- Acts keep the likeness, whichever task acts. -/
theorem alike_onTask (hact : Discreet act) {i : Nat} {u : State} (h : Alike i s u) (j : Nat) :
    Alike i (onTask s j act) (onTask u j act) := by
  have held : u.file.isHeld = false := h.file.isHeld.trans h.free
  have hs := beside_onTask hact h.free j
  refine ⟨hs.isHeld.trans h.free, hs.symm.trans (h.file.trans (beside_onTask hact held j)), ?_, ?_⟩
  · rw [length_onTask, length_onTask, h.count]
  · by_cases hij : i = j
    · subst hij
      simp only [getElem?_onTask_self, h.task, hact.blind _ h.free h.file]
    · rw [getElem?_onTask_ne hij, getElem?_onTask_ne hij, h.task]

end OnTask

theorem alike_step {i : Nat} {s u : State} (h : Alike i s u) (e : Event) :
    Alike i (step s e) (step u e) := by
  cases e with
  | append bytes =>
    obtain ⟨o, ho⟩ := h.file
    exact ⟨h.free, ⟨o, by simp only [step, ho]; rfl⟩, h.count, h.task⟩
  | stop =>
    obtain ⟨o, ho⟩ := h.file
    exact ⟨h.free, ⟨o, by simp only [step, ho]; rfl⟩, h.count, h.task⟩
  | join cacheSize =>
    obtain ⟨o, ho⟩ := h.file
    refine ⟨h.free, h.file, by simp [step, h.count], ?_⟩
    simp only [step, List.getElem?_append, h.count, h.task, ho]
    rfl
  | look j call => exact alike_onTask (discreet_look call) h j
  | read j => exact alike_onTask discreet_read h j

theorem alike_run {i : Nat} (es : List Event) {s u : State} (h : Alike i s u) :
    Alike i (run s es) (run u es) := by
  induction es generalizing s u with
  | nil => exact h
  | cons e es ih => exact ih (alike_step h e)

theorem Alike.refl {s : State} (h : s.file.isHeld = false) (i : Nat) : Alike i s s :=
  ⟨h, .refl _, rfl, rfl⟩

/-- Tasks leave the lock free. -/
theorem free_run (es : List Event) {s : State} (h : s.file.isHeld = false) :
    (run s es).file.isHeld = false :=
  (alike_run es (Alike.refl h 0)).free

/-- A step of one task is no step to another, now or later. -/
theorem task_of_other {s : State} (free : s.file.isHeld = false) {i j : Nat} {e : Event}
    (he : e.task? = some j) (hij : i ≠ j) (later : List Event) :
    (run (step s e) later).tasks[i]? = (run s later).tasks[i]? := by
  cases e with
  | append bytes => cases he
  | stop => cases he
  | join cacheSize => cases he
  | look k call =>
    obtain rfl : k = j := Option.some.inj he
    exact (alike_run later (alike_other (discreet_look call) free hij)).task
  | read k =>
    obtain rfl : k = j := Option.some.inj he
    exact (alike_run later (alike_other discreet_read free hij)).task

/-- **Cursors never lose, repeat or mix bytes.** After any steps of any tasks on a growing file,
each cursor's data are exactly the bytes before its position, which is never past the end, and no
data are empty; and a step of one task changes nothing for another, then or in whatever follows. -/
theorem given_eq_take (f : SharedFile) (free : f.isHeld = false) (es : List Event) :
    (∀ t ∈ (run (start f) es).tasks,
      t.given = (run (start f) es).file.bytes.take t.cursor.position ∧
        t.cursor.position ≤ (run (start f) es).file.bytes.length ∧
        .ok (.data []) ∉ t.answers) ∧
    ∀ i j e later, e.task? = some j → i ≠ j →
      (run (step (run (start f) es) e) later).tasks[i]? =
        (run (run (start f) es) later).tasks[i]? := by
  refine ⟨fun t ht => ?_, fun i j e later he hij => task_of_other (free_run es free) he hij later⟩
  have h := faithful_run es (s := start f) (fun _ h => nomatch h) t ht
  exact ⟨h.given, h.inside, h.solid⟩

/-- A file with a line and a half in it. -/
def sample : SharedFile :=
  { path := "phout.txt", content := some [97, 10, 98], offset := 0, isOpen := true,
    stopped := false, isHeld := false, contention := 0, cacheSize := 4, policy := .standard,
    chance := .constant 0 }

/-- Two cursors, one in the middle of a call while the other reads and the file grows. -/
def twoReaders : List Event :=
  [.join none, .join (some 1), .look 0 (.read none), .look 1 (.read none), .read 1, .append [99],
    .read 0, .look 1 (.read (some 2))]

theorem given_eq_take_twoReaders :
    sample.isHeld = false ∧
    (∀ t ∈ (run (start sample) twoReaders).tasks,
      t.given = [97, 10, 98, 99].take t.cursor.position ∧ t.cursor.position ≤ 4 ∧
        .ok (.data []) ∉ t.answers) ∧
    (run (step (run (start sample) twoReaders) (.read 1)) [.look 0 .readLine]).tasks[0]? =
      (run (run (start sample) twoReaders) [.look 0 .readLine]).tasks[0]? :=
  ⟨rfl, (given_eq_take sample rfl twoReaders).1,
    (given_eq_take sample rfl twoReaders).2 0 1 (.read 1) [.look 0 .readLine] rfl (by decide)⟩

/-! ## The end of the file -/

def Event.isStop : Event → Bool
  | .stop => true
  | _ => false

def Event.isAppend : Event → Bool
  | .append _ => true
  | _ => false

/-- The producer appends nothing once it has stopped. -/
def Orderly (es : List Event) : Prop := es.Pairwise fun a b => a.isStop → b.isAppend = false

/-- Asks for a line or for all that the cursor's cache holds. -/
def Call.isWhole : Call → Bool
  | .read count => count.isNone
  | .readLine => true

def Event.isWhole : Event → Bool
  | .look _ call => call.isWhole
  | _ => true

/-- A task that asks for something, saw no stop before there was one, and was told the end only at
the end. -/
structure Patient (f : SharedFile) (t : Task) : Prop where
  cache : 1 ≤ t.cursor.cacheSize
  whole : ∀ stopped call, t.phase = .looked stopped call → call.isWhole = true
  seen : ∀ call, t.phase = .looked true call → f.stopped = true
  ended : .ok .finished ∈ t.answers → f.stopped = true ∧ t.cursor.position = f.bytes.length

theorem Patient.fresh (f : SharedFile) (cacheSize : Option Nat) :
    Patient f ⟨Cursor.ofFile f cacheSize, .idle, []⟩ :=
  ⟨Nat.le_max_right _ _, nofun, nofun, nofun⟩

theorem Patient.mono {f g : SharedFile} {t : Task} (h : Patient f t)
    (hs : f.stopped = true → g.stopped = true) (hb : f.stopped = true → g.bytes = f.bytes) :
    Patient g t :=
  ⟨h.cache, h.whole, fun call hp => hs (h.seen call hp),
    fun hf => ⟨hs (h.ended hf).1, by rw [hb (h.ended hf).1]; exact (h.ended hf).2⟩⟩

theorem Patient.look {f : SharedFile} {t : Task} (h : Patient f t) {call : Call}
    (hw : call.isWhole = true) : Patient f (t.look f.stopped call) := by
  unfold Task.look
  split
  · refine ⟨h.cache, fun _ _ hp => ?_, fun _ hp => (Phase.looked.inj hp).1, h.ended⟩
    rw [← (Phase.looked.inj hp).2]
    exact hw
  · exact h

theorem mode_ne_zero {c : Cursor} (hc : 1 ≤ c.cacheSize) {call : Call}
    (hw : call.isWhole = true) : call.mode c ≠ .bytes 0 := by
  cases call with
  | read count =>
    cases count with
    | none =>
      intro e
      have := ReadMode.bytes.inj e
      rw [Option.getD_none] at this
      omega
    | some n => cases hw
  | readLine => exact nofun

/-- A read that finds nothing, after a look that found the stop, is at the end. -/
theorem Patient.read {f : SharedFile} {t : Task} (h : Patient f t) (hf : Faithful f.bytes t) :
    Patient f (t.read f).1 := by
  rcases read_cases t f with ⟨-, hr⟩ | ⟨stopped, call, g, hp, -, ⟨e, hr⟩ | hr⟩ <;> rw [hr]
  · exact h
  · exact ⟨h.cache, nofun, nofun, fun hm => h.ended (by simpa using hm)⟩
  · have hmode := mode_ne_zero h.cache (h.whole _ _ hp)
    have hend : bytesAt f.bytes t.cursor.position (call.mode t.cursor) = [] ↔
        f.bytes.length ≤ t.cursor.position := bytesAt_eq_nil hmode
    refine ⟨h.cache, nofun, nofun, fun hm => ?_⟩
    have hdone : f.stopped = true ∧ t.cursor.position = f.bytes.length := by
      rcases List.mem_append.mp hm with hm | hm
      · exact h.ended hm
      · obtain ⟨hnil, rfl⟩ :=
          chunkOf_eq_finished.mp (Except.ok.inj (List.mem_singleton.mp hm)).symm
        exact ⟨h.seen _ hp, Nat.le_antisymm hf.inside (hend.mp hnil)⟩
    refine ⟨hdone.1, ?_⟩
    rw [hend.mpr (Nat.le_of_eq hdone.2.symm)]
    exact hdone.2

theorem stopped_step {s : State} {e : Event} (h : (step s e).file.stopped = true) :
    s.file.stopped = true ∨ e.isStop = true := by
  rcases file_step s e with ⟨more, -, hf⟩ | ⟨rfl, -⟩ | ⟨-, -, hf⟩
  · rw [hf] at h
    exact .inl h
  · exact .inr rfl
  · exact .inl (hf.stopped.symm.trans h)

theorem stopped_run (es : List Event) {s : State} (h : (run s es).file.stopped = true) :
    s.file.stopped = true ∨ ∃ e ∈ es, e.isStop = true := by
  induction es generalizing s with
  | nil => exact .inl h
  | cons e es ih =>
    rcases ih h with h | ⟨e', he, hs⟩
    · rcases stopped_step h with h | h
      · exact .inl h
      · exact .inr ⟨e, List.mem_cons_self, h⟩
    · exact .inr ⟨e', List.mem_cons_of_mem _ he, hs⟩

theorem bytes_step_of_not_append {s : State} {e : Event} (h : e.isAppend = false) :
    (step s e).file.bytes = s.file.bytes := by
  rcases file_step s e with ⟨more, rfl, -⟩ | ⟨-, hf⟩ | ⟨-, -, hf⟩
  · cases h
  · rw [hf]
    rfl
  · exact hf.bytes

theorem bytes_run_of_not_append (es : List Event) (h : ∀ e ∈ es, e.isAppend = false)
    (s : State) : (run s es).file.bytes = s.file.bytes := by
  induction es generalizing s with
  | nil => rfl
  | cons e es ih =>
    exact (ih (fun e' he => h e' (List.mem_cons_of_mem _ he)) (step s e)).trans
      (bytes_step_of_not_append (h e List.mem_cons_self))

theorem patient_step {s : State} (hf : ∀ t ∈ s.tasks, Faithful s.file.bytes t)
    (h : ∀ t ∈ s.tasks, Patient s.file t) {e : Event} (hw : e.isWhole = true)
    (ha : s.file.stopped = true → e.isAppend = false) :
    ∀ t ∈ (step s e).tasks, Patient (step s e).file t := by
  have hboth : ∀ t ∈ (step s e).tasks, Faithful s.file.bytes t ∧ Patient s.file t := by
    refine forall_step (fun t ht => ⟨hf t ht, h t ht⟩) (fun n => ⟨.fresh _ _ n, .fresh _ n⟩)
      (fun i call t he ht => ?_) (fun t ht => ⟨ht.1.read, ht.2.read ht.1⟩)
    rw [he] at hw
    exact ⟨ht.1.look _ call, ht.2.look hw⟩
  intro t ht
  refine (hboth t ht).2.mono (fun hs => ?_) (fun hs => bytes_step_of_not_append (ha hs))
  rcases file_step s e with ⟨more, -, hg⟩ | ⟨-, hg⟩ | ⟨-, -, hg⟩
  · rw [hg]
    exact hs
  · rw [hg]
    rfl
  · rw [hg.stopped]
    exact hs

/-- The invariant of an orderly run: `ha` says that a stopped producer appends no more. -/
theorem patient_run (es : List Event) {s : State} (hf : ∀ t ∈ s.tasks, Faithful s.file.bytes t)
    (h : ∀ t ∈ s.tasks, Patient s.file t) (ho : Orderly es) (hw : ∀ e ∈ es, e.isWhole = true)
    (ha : s.file.stopped = true → ∀ e ∈ es, e.isAppend = false) :
    ∀ t ∈ (run s es).tasks, Patient (run s es).file t := by
  induction es generalizing s with
  | nil => exact h
  | cons e es ih =>
    obtain ⟨he, ho⟩ := List.pairwise_cons.mp ho
    refine ih (faithful_step hf e)
      (patient_step hf h (hw e List.mem_cons_self) fun hs => ha hs e List.mem_cons_self) ho
      (fun e' he' => hw e' (List.mem_cons_of_mem _ he')) (fun hs e' he' => ?_)
    rcases stopped_step hs with hs | hs
    · exact ha hs e' (List.mem_cons_of_mem _ he')
    · exact he e' he' hs

/-- **No byte written before the stop is missed.** A cursor that was ever told that nothing follows
has delivered every byte that the producer appends in the whole run. -/
theorem finished_at_end (f : SharedFile) (hf : f.stopped = false) (es later : List Event)
    (ho : Orderly (es ++ later)) (hw : ∀ e ∈ es, e.isWhole = true) (t : Task)
    (ht : t ∈ (run (start f) es).tasks) (hfin : .ok .finished ∈ t.answers) :
    t.cursor.position = (run (start f) (es ++ later)).file.bytes.length ∧
      t.given = (run (start f) (es ++ later)).file.bytes := by
  obtain ⟨ho, -, hpair⟩ := List.pairwise_append.mp ho
  have hstart : ¬ (start f).file.stopped = true := by
    show ¬ f.stopped = true
    rw [hf]
    exact Bool.false_ne_true
  have hp := patient_run es (s := start f) (fun _ h => nomatch h) (fun _ h => nomatch h) ho hw
    (fun h => absurd h hstart) t ht
  have hg := faithful_run es (s := start f) (fun _ h => nomatch h) t ht
  obtain ⟨hs, hpos⟩ := hp.ended hfin
  have hlater : ∀ e ∈ later, e.isAppend = false := by
    rcases stopped_run es hs with h | ⟨e, he, hstop⟩
    · exact absurd h hstart
    · exact fun e' he' => hpair e he e' he' hstop
  rw [run_append, bytes_run_of_not_append later hlater]
  refine ⟨hpos, ?_⟩
  rw [hg.given, hpos, List.take_length]

/-- A cursor that reads on until it is told that nothing follows. -/
def readsToEnd : List Event :=
  [.join (some 3), .look 0 (.read none), .append [99, 10], .read 0, .look 0 (.read none), .stop,
    .read 0, .look 0 (.read none), .read 0]

/-- The task of `readsToEnd` at its end. -/
def served : Task :=
  ⟨⟨5, 3⟩, .idle, [.ok (.data [97, 10, 98]), .ok (.data [99, 10]), .ok .finished]⟩

theorem finished_at_end_readsToEnd :
    (sample.stopped = false ∧ Orderly (readsToEnd ++ [.look 0 .readLine]) ∧
      (∀ e ∈ readsToEnd, e.isWhole = true) ∧ served ∈ (run (start sample) readsToEnd).tasks ∧
      .ok .finished ∈ served.answers) ∧
    served.cursor.position = 5 ∧ served.given = [97, 10, 98, 99, 10] := by
  have ho : Orderly (readsToEnd ++ [.look 0 .readLine]) := by
    simp [Orderly, readsToEnd, Event.isStop, Event.isAppend]
  have hw : ∀ e ∈ readsToEnd, e.isWhole = true := by decide
  have ht : served ∈ (run (start sample) readsToEnd).tasks :=
    List.mem_of_getElem? (i := 0) rfl
  have hfin : .ok .finished ∈ served.answers := by simp [served]
  exact ⟨⟨rfl, ho, hw, ht, hfin⟩,
    finished_at_end sample rfl readsToEnd [.look 0 .readLine] ho hw served ht hfin⟩

end Volley.Sharing
