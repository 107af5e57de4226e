import Mathlib.Algebra.GroupWithZero.Nat
import Mathlib.Data.List.Forall2
import Mathlib.Logic.Function.Basic
import Volley.Phout.Reader
import Volley.Proofs.SharedFile.Reads

/-!
# Calls that are refused

Cursors, phout readers and others use one shared file. While another task holds the lock, every call
that needs the lock gives up on it; after the file was closed, every call that reads is refused.
Here a refused call is followed through all five ways to make one. It looks at the stop signal, waits
for the lock and counts its attempts, and only then touches the handle, a position or what a reader
keeps; so nothing but the count (and the chance that the pauses were drawn from) has changed when it
gives up.

* `ask_of_refused`: where reads are refused, so are the calls that make them.
* `ask_of_held`, `ask_of_closed`: what one refused call answers and leaves.
* `ask_marked`: a call that gets the lock sees neither the count nor the chance.
* `run_held`: refused calls can be struck from a run.
* `alike_answers`: nobody can tell later whether they were made.
* `refused_calls_leave_no_trace`: all together.

A run is a list of events. Cursors and readers are told apart by numbers, and any number of them may
be in use.
-/
namespace Volley

/-! ## Files -/

namespace SharedFile

/-- The file with another count of attempts, and another chance for the pauses to come. -/
def marked (f : SharedFile) (contention : Nat) (chance : Chance) : SharedFile :=
  { f with contention, chance }

/-- Why a call gives up after so many attempts at the lock. -/
def lockFault (f : SharedFile) (attempts : Nat) : Fault :=
  .lock ("Could not lock " ++ f.path ++ " within " ++ f.policy.budget.render ++ " (" ++
    toString attempts ++ " attempts)")

/-- Why a closed file is not read. -/
def closedFault (f : SharedFile) : Fault := .file (f.path ++ " has been closed")

/-- Giving up on the lock counts the attempts, of which there was at least one. -/
theorem acquire_eq_of_held {f : SharedFile} (h : f.isHeld = true) :
    ∃ n chance, 1 ≤ n ∧
      f.acquire = (.error (f.lockFault n), f.marked (f.contention + n) chance) := by
  have hpos : 1 ≤ (f.policy.attempts f.chance).1 := LockPolicy.attemptsFrom_pos ..
  unfold acquire
  rw [if_pos h]
  generalize f.policy.attempts f.chance = drawn at hpos
  obtain ⟨n, chance⟩ := drawn
  exact ⟨n, chance, hpos, rfl⟩

theorem requestLine_marked (f : SharedFile) (n : Nat) (chance : Chance) :
    (f.marked n chance).requestLine = (f.requestLine.1, f.requestLine.2.marked n chance) := by
  fun_induction requestLine f with
  | case1 f block h =>
    have h' : ((f.marked n chance).request lineBlock).1 = [] ∨
        10 ∈ ((f.marked n chance).request lineBlock).1 := h
    rw [requestLine, if_pos h']
    rfl
  | case2 f block h more ih =>
    have h' : ¬ (((f.marked n chance).request lineBlock).1 = [] ∨
        10 ∈ ((f.marked n chance).request lineBlock).1) := h
    have hmore : ((f.marked n chance).request lineBlock).2.requestLine =
        (more.1, more.2.marked n chance) := ih
    rw [requestLine, if_neg h', hmore]
    rfl

theorem fetch_marked (f : SharedFile) (n : Nat) (chance : Chance) (mode : ReadMode) :
    (f.marked n chance).fetch mode = ((f.fetch mode).1, (f.fetch mode).2.marked n chance) := by
  cases mode with
  | bytes count => rfl
  | line => exact requestLine_marked f n chance

theorem readMoving_marked (f : SharedFile) (n : Nat) (chance : Chance) (stopped : Bool)
    (position : Nat) (mode : ReadMode) :
    (f.marked n chance).readMoving stopped position mode =
      ((f.readMoving stopped position mode).1,
        (f.readMoving stopped position mode).2.marked n chance) := by
  have hfault : (f.marked n chance).fault? position mode = f.fault? position mode := rfl
  have hseek : (f.marked n chance).seek position = (f.seek position).marked n chance := rfl
  unfold readMoving
  rw [hfault, hseek, fetch_marked]
  cases f.fault? position mode <;> rfl

/-- A read that gets the lock sees neither the count of attempts nor the chance. -/
theorem readAt_marked {f : SharedFile} (free : f.isHeld = false) (n : Nat) (chance : Chance)
    (position : Nat) (mode : ReadMode) :
    (f.marked n chance).readAt position mode =
      ((f.readAt position mode).1, (f.readAt position mode).2.marked n chance) := by
  have free' : (f.marked n chance).isHeld = false := free
  unfold readAt
  rw [readAfter_of_free free, readAfter_of_free free']
  exact readMoving_marked f n chance f.stopped position mode

/-- A read that gives up on the lock leaves the handle where it was. -/
theorem readAt_of_acquire {f g : SharedFile} {e : Fault} (h : f.acquire = (.error e, g))
    (position : Nat) (mode : ReadMode) : f.readAt position mode = (.error e, g) := by
  rw [readAt, readAfter, h]

theorem readAt_of_closed {f : SharedFile} (free : f.isHeld = false) (closed : f.isOpen = false)
    (position : Nat) (mode : ReadMode) : f.readAt position mode = (.error f.closedFault, f) := by
  have hfault : f.fault? position mode = some f.closedFault := by
    unfold fault?
    rw [closed]
    rfl
  rw [readAt, readAfter_of_free free, readMoving, hfault]

theorem close_of_free {f : SharedFile} (free : f.isHeld = false) :
    f.close = (.ok (), { f with isOpen := false }) := by
  rw [close, acquire_of_free free]

end SharedFile

/-! ## Cursors and readers -/

section
variable {f g : SharedFile} {e : Fault}

/-- A cursor does not move when its read fails. -/
theorem Cursor.readAs_of_error {c : Cursor} {mode : ReadMode}
    (h : f.readAt c.position mode = (.error e, g)) : c.readAs f mode = (.error e, c, g) := by
  have hread : f.readAfter f.stopped c.position mode = (.error e, g) := h
  rw [Cursor.readAs, Cursor.readAfter, hread]

/-- A reader keeps all it has when its cursor's read fails. -/
theorem Phout.Reader.next_of_error {r : Phout.Reader} (hlive : r.finished = false)
    (h : r.cursor.read f none = (.error e, r.cursor, g)) : r.next f = (.error e, r, g) := by
  rw [Phout.Reader.next, hlive, h]
  rfl

theorem Cursor.readAs_marked (c : Cursor) (free : f.isHeld = false) (n : Nat) (chance : Chance)
    (mode : ReadMode) :
    c.readAs (f.marked n chance) mode =
      ((c.readAs f mode).1, (c.readAs f mode).2.1, (c.readAs f mode).2.2.marked n chance) := by
  have hread := SharedFile.readAt_marked free n chance c.position mode
  simp only [SharedFile.readAt] at hread
  simp only [Cursor.readAs, Cursor.readAfter, hread]
  generalize f.readAfter f.stopped c.position mode = answer
  obtain ⟨r, h⟩ := answer
  cases r <;> rfl

theorem Phout.Reader.next_marked (r : Phout.Reader) (free : f.isHeld = false) (n : Nat)
    (chance : Chance) :
    r.next (f.marked n chance) =
      ((r.next f).1, (r.next f).2.1, (r.next f).2.2.marked n chance) := by
  simp only [Phout.Reader.next, Cursor.read, r.cursor.readAs_marked free]
  by_cases hfin : r.finished = true
  · simp only [if_pos hfin]
  · simp only [if_neg hfin]
    generalize r.cursor.readAs f _ = answer
    obtain ⟨a, c, h⟩ := answer
    cases a <;> rfl

end

namespace Contention

open SharedFile

/-! ## Calls -/

structure State where
  file : SharedFile
  cursors : Nat → Cursor
  readers : Nat → Phout.Reader

inductive Call where
  | read (i : Nat) (count : Option Nat)
  | readLine (i : Nat)
  | readAt (position : Nat) (mode : ReadMode)
  | close
  | next (j : Nat)
  deriving DecidableEq, Repr

inductive Reply where
  | chunk (chunk : Chunk)
  | placed (chunk : Chunk) (next : Nat)
  | closed
  | part (ms : Option (List Measurement))
  deriving DecidableEq, Repr

namespace State

def ask (s : State) : Call → Except Fault Reply × State
  | .read i count =>
    let (answer, cursor, file) := (s.cursors i).read s.file count
    (answer.map .chunk, ⟨file, Function.update s.cursors i cursor, s.readers⟩)
  | .readLine i =>
    let (answer, cursor, file) := (s.cursors i).readLine s.file
    (answer.map .chunk, ⟨file, Function.update s.cursors i cursor, s.readers⟩)
  | .readAt position mode =>
    let (answer, file) := s.file.readAt position mode
    (answer.map fun (chunk, next) => .placed chunk next, { s with file })
  | .close =>
    let (answer, file) := s.file.close
    (answer.map fun _ => .closed, { s with file })
  | .next j =>
    let (answer, reader, file) := (s.readers j).next s.file
    (answer.map .part, ⟨file, s.cursors, Function.update s.readers j reader⟩)

/-- Whether a call needs the lock. A reader that has finished answers without it. -/
def needsLock (s : State) : Call → Bool
  | .next j => !(s.readers j).finished
  | _ => true

/-- The state with another count of attempts, and another chance for the pauses to come. -/
def marked (s : State) (contention : Nat) (chance : Chance) : State :=
  { s with file := s.file.marked contention chance }

end State

/-- Where no read gets through, all that the other calls do is to pass on why. -/
theorem ask_of_refused {s : State} {e : Fault} {g : SharedFile}
    (h : ∀ position mode, s.file.readAt position mode = (.error e, g)) {call : Call}
    (hneeds : s.needsLock call = true) (hread : call ≠ .close) :
    s.ask call = (.error e, { s with file := g }) := by
  have hcursor (c : Cursor) (mode : ReadMode) := Cursor.readAs_of_error (h c.position mode)
  cases call with
  | read i count =>
    simp only [State.ask, Cursor.read, hcursor, Function.update_eq_self]
    rfl
  | readLine i =>
    simp only [State.ask, Cursor.readLine, hcursor, Function.update_eq_self]
    rfl
  | readAt position mode =>
    simp only [State.ask, h]
    rfl
  | close => exact absurd rfl hread
  | next j =>
    have hlive : (s.readers j).finished = false := by simpa [State.needsLock] using hneeds
    have hnext := Phout.Reader.next_of_error hlive (hcursor (s.readers j).cursor _)
    simp only [State.ask, hnext, Function.update_eq_self]
    rfl

/-- A call that needs the lock while another task holds it gives up, and leaves nothing but the
count of its attempts. -/
theorem ask_of_held {s : State} (h : s.file.isHeld = true) {call : Call}
    (hneeds : s.needsLock call = true) :
    ∃ n chance, 1 ≤ n ∧ s.ask call =
      (.error (s.file.lockFault n), s.marked (s.file.contention + n) chance) := by
  obtain ⟨n, chance, hpos, hacquire⟩ := acquire_eq_of_held h
  refine ⟨n, chance, hpos, ?_⟩
  by_cases hclose : call = .close
  · rw [hclose]
    simp only [State.ask, close, hacquire]
    rfl
  · exact ask_of_refused (readAt_of_acquire hacquire) hneeds hclose

/-- On a closed file calls that need the lock and get it are refused, but to close it again is no
fault; nothing changes. -/
theorem ask_of_closed {s : State} (free : s.file.isHeld = false) (closed : s.file.isOpen = false)
    {call : Call} (hneeds : s.needsLock call = true) :
    s.ask call = (if call = .close then .ok .closed else .error s.file.closedFault, s) := by
  by_cases hclose : call = .close
  · have hsame : ({ s.file with isOpen := false } : SharedFile) = s.file := by rw [← closed]
    rw [if_pos hclose, hclose]
    simp only [State.ask, close_of_free free, hsame]
    rfl
  · rw [if_neg hclose]
    exact ask_of_refused (readAt_of_closed free closed) hneeds hclose

/-- A reader that has finished says so, and touches nothing. -/
theorem ask_of_finished {s : State} {call : Call} (hneeds : s.needsLock call = false) :
    s.ask call = (.ok (.part none), s) := by
  cases call with
  | next j =>
    have hfin : (s.readers j).finished = true := by simpa [State.needsLock] using hneeds
    have hnext : (s.readers j).next s.file = (.ok none, s.readers j, s.file) := by
      rw [Phout.Reader.next, if_pos hfin]
    simp only [State.ask, hnext, Function.update_eq_self]
    rfl
  | _ => cases hneeds

/-- A call that gets the lock sees neither the count of attempts nor the chance. -/
theorem ask_marked {s : State} (free : s.file.isHeld = false) (n : Nat) (chance : Chance)
    (call : Call) :
    (s.marked n chance).ask call = ((s.ask call).1, (s.ask call).2.marked n chance) := by
  cases call with
  | read i count =>
    simp only [State.ask, State.marked, Cursor.read, (s.cursors i).readAs_marked free]
  | readLine i =>
    simp only [State.ask, State.marked, Cursor.readLine, (s.cursors i).readAs_marked free]
  | readAt position mode => simp only [State.ask, State.marked, readAt_marked free]
  | close =>
    have free' : (s.file.marked n chance).isHeld = false := free
    simp only [State.ask, State.marked, close_of_free free, close_of_free free']
    rfl
  | next j => simp only [State.ask, State.marked, (s.readers j).next_marked free]

/-! ## Runs -/

/-- What others do. -/
inductive Change where
  | append (bytes : List UInt8)
  | truncate (size : Nat)
  | stop
  /-- Another task takes the lock. -/
  | hold
  /-- It gives the lock back, and leaves the handle at some offset. -/
  | release (offset : Nat)
  deriving DecidableEq, Repr

inductive Event where
  | call (call : Call)
  | change (change : Change)
  deriving DecidableEq, Repr

def Event.isChange : Event → Bool
  | .call _ => false
  | .change _ => true

namespace State

def change (s : State) : Change → State
  | .append bytes => { s with file := s.file.append bytes }
  | .truncate size => { s with file := s.file.truncate size }
  | .stop => { s with file := s.file.stop }
  | .hold => { s with file := { s.file with isHeld := true } }
  | .release offset => { s with file := { s.file.seek offset with isHeld := false } }

def run (s : State) : List Event → State
  | [] => s
  | .call call :: es => (s.ask call).2.run es
  | .change change :: es => (s.change change).run es

/-- The answers of the calls of a run, in order. -/
def answers (s : State) : List Event → List (Except Fault Reply)
  | [] => []
  | .call call :: es => (s.ask call).1 :: (s.ask call).2.answers es
  | .change change :: es => (s.change change).answers es

end State

theorem change_marked (s : State) (n : Nat) (chance : Chance) (change : Change) :
    (s.marked n chance).change change = (s.change change).marked n chance := by
  cases change <;> rfl

theorem run_changes_marked (es : List Event) (s : State) (n : Nat) (chance : Chance) :
    (s.marked n chance).run (es.filter Event.isChange) =
      (s.run (es.filter Event.isChange)).marked n chance := by
  induction es generalizing s with
  | nil => rfl
  | cons e es ih =>
    cases e with
    | call call => exact ih s
    | change change =>
      rw [List.filter_cons_of_pos rfl, State.run, change_marked]
      exact ih (s.change change)

/-- The lock is not given back. -/
def StaysHeld (es : List Event) : Prop := ∀ offset, .change (.release offset) ∉ es

/-- What others do keeps cursors and readers, the count, and the faults of those who are refused. -/
structure Apart (s t : State) : Prop where
  cursors : t.cursors = s.cursors
  readers : t.readers = s.readers
  contention : t.file.contention = s.file.contention
  isOpen : t.file.isOpen = s.file.isOpen
  path : t.file.path = s.file.path
  policy : t.file.policy = s.file.policy

theorem apart_change (s : State) (change : Change) : Apart s (s.change change) := by
  cases change <;> exact ⟨rfl, rfl, rfl, rfl, rfl, rfl⟩

theorem isHeld_change {s : State} (h : s.file.isHeld = true) {change : Change}
    (hno : ∀ offset, change ≠ .release offset) : (s.change change).file.isHeld = true := by
  cases change with
  | release offset => exact absurd rfl (hno offset)
  | hold => rfl
  | append bytes => exact h
  | truncate size => exact h
  | stop => exact h

theorem Apart.needsLock {s t : State} (h : Apart s t) (call : Call) :
    t.needsLock call = s.needsLock call := by
  cases call with
  | next j => simp only [State.needsLock, h.readers]
  | _ => rfl

theorem Apart.lockFault {s t : State} (h : Apart s t) (n : Nat) :
    t.file.lockFault n = s.file.lockFault n := by
  simp only [SharedFile.lockFault, h.path, h.policy]

/-- Calls that are refused can be struck from a run; what remains of them is the count. -/
theorem run_held (es : List Event) (hes : StaysHeld es) {s : State} (h : s.file.isHeld = true)
    (hneeds : ∀ call, .call call ∈ es → s.needsLock call = true) :
    ∃ (attempts : List Nat) (chance : Chance),
      s.answers es = attempts.map (fun n => .error (s.file.lockFault n)) ∧
      (∀ n ∈ attempts, 1 ≤ n) ∧
      s.run es = (s.run (es.filter Event.isChange)).marked
        (s.file.contention + attempts.sum) chance := by
  induction es generalizing s with
  | nil => exact ⟨[], s.file.chance, rfl, nofun, rfl⟩
  | cons e es ih =>
    have hes' : StaysHeld es := fun offset hm => hes offset (List.mem_cons_of_mem e hm)
    have hlater : ∀ call, .call call ∈ es → s.needsLock call = true :=
      fun call hm => hneeds call (List.mem_cons_of_mem e hm)
    cases e with
    | call call =>
      obtain ⟨n, drawn, hpos, hask⟩ := ask_of_held h (hneeds call List.mem_cons_self)
      obtain ⟨attempts, chance, hanswers, hall, hrun⟩ :=
        ih hes' (s := s.marked (s.file.contention + n) drawn) h hlater
      refine ⟨n :: attempts, chance, ?_, List.forall_mem_cons.mpr ⟨hpos, hall⟩, ?_⟩
      · rw [State.answers, hask, hanswers]
        rfl
      · rw [State.run, hask, hrun, run_changes_marked, List.sum_cons, ← Nat.add_assoc]
        rfl
    | change change =>
      have hno : ∀ offset, change ≠ .release offset := by
        rintro offset rfl
        exact hes offset List.mem_cons_self
      have hapart := apart_change s change
      obtain ⟨attempts, chance, hanswers, hall, hrun⟩ := ih hes' (isHeld_change h hno)
        fun call hm => (hapart.needsLock call).trans (hlater call hm)
      simp only [hapart.lockFault] at hanswers
      rw [hapart.contention] at hrun
      exact ⟨attempts, chance, hanswers, hall, hrun⟩

/-! ## What can be told later -/

/-- The same answer, but for how often the lock was tried for. -/
def SameAnswer (a b : Except Fault Reply) : Prop :=
  a = b ∨ ∃ (f : SharedFile) (m n : Nat), a = .error (f.lockFault m) ∧ b = .error (f.lockFault n)

/-- The same state, but for the count of attempts and the chance. -/
def Alike (s t : State) : Prop := ∃ n chance, t = s.marked n chance

theorem alike_ask {s t : State} (h : Alike s t) (call : Call) :
    SameAnswer (s.ask call).1 (t.ask call).1 ∧ Alike (s.ask call).2 (t.ask call).2 := by
  obtain ⟨n, chance, rfl⟩ := h
  cases hheld : s.file.isHeld with
  | false =>
    rw [ask_marked hheld]
    exact ⟨.inl rfl, n, chance, rfl⟩
  | true =>
    have hheld' : (s.marked n chance).file.isHeld = true := hheld
    cases hneeds : s.needsLock call with
    | false =>
      have hneeds' : (s.marked n chance).needsLock call = false := hneeds
      rw [ask_of_finished hneeds, ask_of_finished hneeds']
      exact ⟨.inl rfl, n, chance, rfl⟩
    | true =>
      have hneeds' : (s.marked n chance).needsLock call = true := hneeds
      obtain ⟨m, drawn, -, hask⟩ := ask_of_held hheld hneeds
      obtain ⟨m', drawn', -, hask'⟩ := ask_of_held hheld' hneeds'
      rw [hask, hask']
      exact ⟨.inr ⟨s.file, m, m', rfl, rfl⟩, _, drawn', rfl⟩

/-- Nobody can tell two such states apart. -/
theorem alike_answers (es : List Event) {s t : State} (h : Alike s t) :
    List.Forall₂ SameAnswer (s.answers es) (t.answers es) := by
  induction es generalizing s t with
  | nil => exact .nil
  | cons e es ih =>
    cases e with
    | call call =>
      obtain ⟨hanswer, hnext⟩ := alike_ask h call
      exact .cons hanswer (ih hnext)
    | change change =>
      obtain ⟨n, chance, rfl⟩ := h
      exact ih ⟨n, chance, change_marked s n chance change⟩

/-! ## Closed files -/

/-- The file of `s` is closed, and cursors and readers are where they were. -/
structure Shut (s t : State) : Prop where
  closed : t.file.isOpen = false
  path : t.file.path = s.file.path
  cursors : t.cursors = s.cursors
  readers : t.readers = s.readers

theorem shut_ask {s t : State} (h : Shut s t) (call : Call) : Shut s (t.ask call).2 := by
  cases hneeds : t.needsLock call with
  | false =>
    rw [ask_of_finished hneeds]
    exact h
  | true =>
    cases hheld : t.file.isHeld with
    | true =>
      obtain ⟨n, chance, -, hask⟩ := ask_of_held hheld hneeds
      rw [hask]
      exact ⟨h.closed, h.path, h.cursors, h.readers⟩
    | false =>
      rw [ask_of_closed hheld h.closed hneeds]
      exact h

theorem shut_run (es : List Event) {s t : State} (h : Shut s t) : Shut s (t.run es) := by
  induction es generalizing t with
  | nil => exact h
  | cons e es ih =>
    cases e with
    | call call => exact ih (shut_ask h call)
    | change change =>
      have hapart := apart_change t change
      exact ih ⟨hapart.isOpen.trans h.closed, hapart.path.trans h.path,
        hapart.cursors.trans h.cursors, hapart.readers.trans h.readers⟩

/-- **Refused calls leave no trace.** While another task holds the lock, whatever else happens to the
file, every call that needs the lock gives up on it with a fault that tells its attempts; the count
has grown by the sum of them, all else is as if the calls had not been made, and later calls answer
so. After the file was closed, cursors and readers stay as they are, whatever happens: every call
that reads and gets the lock is refused and changes nothing, and to close once more is no fault. -/
theorem refused_calls_leave_no_trace (s : State) :
    (s.file.isHeld = true → ∀ es, StaysHeld es →
      (∀ call, .call call ∈ es → s.needsLock call = true) →
      ∃ (attempts : List Nat) (chance : Chance),
        s.answers es = attempts.map (fun n => .error (s.file.lockFault n)) ∧
        (∀ n ∈ attempts, 1 ≤ n) ∧
        s.run es = (s.run (es.filter Event.isChange)).marked
          (s.file.contention + attempts.sum) chance ∧
        ∀ later, List.Forall₂ SameAnswer
          ((s.run (es.filter Event.isChange)).answers later) ((s.run es).answers later)) ∧
    (s.file.isHeld = false →
      (s.ask .close).1 = .ok .closed ∧
      ∀ es, ((s.ask .close).2.run es).cursors = s.cursors ∧
        ((s.ask .close).2.run es).readers = s.readers ∧
        (((s.ask .close).2.run es).file.isHeld = false → ∀ call,
          ((s.ask .close).2.run es).needsLock call = true →
          ((s.ask .close).2.run es).ask call =
            (if call = .close then .ok .closed else .error s.file.closedFault,
              (s.ask .close).2.run es))) := by
  constructor
  · intro hheld es hes hneeds
    obtain ⟨attempts, chance, hanswers, hpos, hrun⟩ := run_held es hes hheld hneeds
    refine ⟨attempts, chance, hanswers, hpos, hrun, fun later => ?_⟩
    exact alike_answers later ⟨_, chance, hrun⟩
  · intro free
    have hclose : s.ask .close =
        (.ok .closed, { s with file := { s.file with isOpen := false } }) := by
      simp only [State.ask, close_of_free free]
      rfl
    rw [hclose]
    refine ⟨rfl, fun es => ?_⟩
    have hshut : Shut s { s with file := { s.file with isOpen := false } } := ⟨rfl, rfl, rfl, rfl⟩
    have hrun := shut_run es hshut
    generalize State.run _ es = t at hrun ⊢
    have hfault : t.file.closedFault = s.file.closedFault := by
      rw [closedFault, hrun.path, closedFault]
    refine ⟨hrun.cursors, hrun.readers, fun free' call hneeds => ?_⟩
    rw [ask_of_closed free' hrun.closed hneeds, hfault]

/-- A line and a half that another task reads, cursors at all places, and readers at the second
byte. -/
def busy : State where
  file :=
    { path := "phout.txt", content := some [97, 10, 98], offset := 2, isOpen := true,
      stopped := false, isHeld := true, contention := 7, cacheSize := 4, policy := .standard,
      chance := .constant 0 }
  cursors i := ⟨i, 4⟩
  readers _ := .start ⟨1, 4⟩

/-- Three calls, while the producer writes on and stops. -/
def duringHold : List Event :=
  [.call (.read 0 none), .change (.append [99]), .call (.next 3), .change .stop, .call .close]

/-- The same users when the lock is free. -/
def calm : State := { busy with file := { busy.file with isHeld := false } }

def afterClose : List Event :=
  [.change (.append [99]), .call (.readLine 2), .change .hold, .change (.release 1)]

theorem refused_calls_leave_no_trace_busy :
    (busy.file.isHeld = true ∧ StaysHeld duringHold ∧
      (∀ call, .call call ∈ duringHold → busy.needsLock call = true)) ∧
    (∃ (attempts : List Nat) (chance : Chance),
      busy.answers duringHold = attempts.map (fun n => .error (busy.file.lockFault n)) ∧
      (∀ n ∈ attempts, 1 ≤ n) ∧
      busy.run duringHold = (busy.run [.change (.append [99]), .change .stop]).marked
        (7 + attempts.sum) chance ∧
      ∀ later, List.Forall₂ SameAnswer
        ((busy.run [.change (.append [99]), .change .stop]).answers later)
        ((busy.run duringHold).answers later)) ∧
    (calm.file.isHeld = false ∧ ((calm.ask .close).2.run afterClose).file.isHeld = false) ∧
    (calm.ask .close).1 = .ok .closed ∧
    ((calm.ask .close).2.run afterClose).cursors = calm.cursors ∧
    (((calm.ask .close).2.run afterClose).ask (.next 5)).1 =
      .error (.file "phout.txt has been closed") := by
  have hes : StaysHeld duringHold := by simp [StaysHeld, duringHold]
  have hneeds : ∀ call, .call call ∈ duringHold → busy.needsLock call = true := by
    intro call hmem
    simp only [duringHold, List.mem_cons, List.not_mem_nil, reduceCtorEq, Event.call.injEq,
      false_or, or_false] at hmem
    rcases hmem with rfl | rfl | rfl <;> rfl
  have hfree : ((calm.ask .close).2.run afterClose).file.isHeld = false := rfl
  obtain ⟨hclosed, hafter⟩ := (refused_calls_leave_no_trace calm).2 rfl
  obtain ⟨hcursors, -, hask⟩ := hafter afterClose
  have hnext := hask hfree (.next 5) rfl
  exact ⟨⟨rfl, hes, hneeds⟩, (refused_calls_leave_no_trace busy).1 rfl duringHold hes hneeds,
    ⟨rfl, hfree⟩, hclosed, hcursors, by rw [hnext]; rfl⟩

end Contention

end Volley
