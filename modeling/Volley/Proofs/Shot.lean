import Volley.Proofs.Channel.Traffic
import Volley.Proofs.Measurement.Figures

/-!
# What a measured scope leaves behind

A gun edits the record of its shot field by field and then leaves the scope: in the ordinary way, by
a failure that it records, by a panic, with the result of a measured body, or without a trace.
However it is left, the channel gets one record or none.

* `read_assignAll`: after any assignments a field holds what was assigned to it last.
* `leave_eq_offer`: every way out but one offers the edited record, failed or as it is.
* `one_record_per_exit`: the record, field by field, and what is handed back.
-/
namespace Volley

namespace ShotRecord

/-! ## Assignments -/

/-- The fields of an open record. -/
inductive Field where
  | tag
  | sentAt
  | figure (f : Figure)
  deriving DecidableEq

abbrev Field.Value : Field → Type
  | tag => String
  | sentAt => Timestamp
  | figure f => f.Value

def read (r : ShotRecord) : (f : Field) → f.Value
  | .tag => r.tag
  | .sentAt => r.sentAt
  | .figure f => f.read r

/-- A field with the value that it is assigned. -/
structure Assignment where
  field : Field
  value : field.Value

def assign (r : ShotRecord) (a : Assignment) : ShotRecord :=
  match a with
  | ⟨.tag, tag⟩ => { r with tag }
  | ⟨.sentAt, sentAt⟩ => { r with sentAt }
  | ⟨.figure f, x⟩ => f.put x r

def assignAll (r : ShotRecord) (edits : List Assignment) : ShotRecord := edits.foldl assign r

/-- What is assigned to a field, if this assignment is to it. -/
def Assignment.to? (a : Assignment) (f : Field) : Option f.Value :=
  if h : a.field = f then some (h ▸ a.value) else none

/-- What is assigned to a field last. -/
def last? (f : Field) : List Assignment → Option f.Value
  | [] => none
  | a :: edits => (last? f edits).or (a.to? f)

theorem read_assign_self (r : ShotRecord) (f : Field) (x : f.Value) :
    (r.assign ⟨f, x⟩).read f = x := by
  cases f with
  | tag => rfl
  | sentAt => rfl
  | figure f => exact f.read_put_self x r

theorem read_assign_ne {f g : Field} (h : f ≠ g) (r : ShotRecord) (x : g.Value) :
    (r.assign ⟨g, x⟩).read f = r.read f := by
  cases g with
  | tag =>
    cases f with
    | tag => exact absurd rfl h
    | sentAt => rfl
    | figure f => cases f <;> rfl
  | sentAt =>
    cases f with
    | tag => rfl
    | sentAt => exact absurd rfl h
    | figure f => cases f <;> rfl
  | figure g =>
    cases f with
    | tag => exact g.tag_put x r
    | sentAt => exact g.sentAt_put x r
    | figure f => exact Figure.read_put_ne (fun hfg => h (congrArg Field.figure hfg)) x r

theorem read_assign (r : ShotRecord) (a : Assignment) (f : Field) :
    (r.assign a).read f = (a.to? f).getD (r.read f) := by
  obtain ⟨g, x⟩ := a
  by_cases h : g = f
  · subst h
    have hto : (Assignment.mk g x).to? g = some x := dif_pos rfl
    rw [hto, read_assign_self, Option.getD_some]
  · have hto : (Assignment.mk g x).to? f = none := dif_neg h
    rw [hto, read_assign_ne (Ne.symm h), Option.getD_none]

/-- **The last assignment counts.** A field holds what was assigned to it last, or what it held
before. -/
theorem read_assignAll (edits : List Assignment) (r : ShotRecord) (f : Field) :
    (r.assignAll edits).read f = (last? f edits).getD (r.read f) := by
  induction edits generalizing r with
  | nil => rfl
  | cons a edits ih =>
    have hrest : (r.assignAll (a :: edits)).read f = ((r.assign a).assignAll edits).read f := rfl
    rw [hrest, ih, read_assign, last?]
    cases last? f edits <;> simp

end ShotRecord

namespace Shot

open ShotRecord (Assignment)

/-! ## Ways out of a scope -/

/-- How a gun leaves the scope of a shot. -/
inductive Exit (ε α : Type) where
  | dropped
  /-- It records a failure, and that is the last it does. -/
  | failed (error : ε)
  | panicked
  | discarded
  /-- It is the body of a measured scope, and this is its result. -/
  | returned (result : Except ε α)

namespace Exit
variable {ε α : Type}

/-- What the way out hands back. -/
def result? : Exit ε α → Option (Except ε α)
  | failed e => some (.error e)
  | returned result => some result
  | _ => none

/-- Whether the shot counts as failed. -/
def fails : Exit ε α → Bool
  | panicked => true
  | failed _ => true
  | returned (.error _) => true
  | _ => false

end Exit

section
variable {ε α : Type} (marker : String) (start stop : Clock.Reading) (c : Channel)
  (edits : List Assignment)

/-- The shot with the edits of its record. -/
def edited : Shot :=
  let shot := begin marker start
  { shot with record := shot.record.assignAll edits }

/-- Runs a shot that edits its record: the channel after it, and what is handed back. -/
def leave : Exit ε α → Channel × Option (Except ε α)
  | .dropped => ((edited marker start edits).close .completed stop c, none)
  | .failed e =>
    let (shot, e) := (edited marker start edits).failWith e
    (shot.close .completed stop c, some (.error e))
  | .panicked => ((edited marker start edits).close .panicked stop c, none)
  | .discarded => ((edited marker start edits).close .discarded stop c, none)
  | .returned result =>
    let (c, result) := around marker start stop c fun r => (r.assignAll edits, result)
    (c, some result)

/-- Every way out but one offers the edited record, marked if the shot counts as failed. -/
theorem leave_eq_offer {exit : Exit ε α} (h : exit ≠ .discarded) :
    let r := (edited marker start edits).record
    (leave marker start stop c edits exit).1 =
      (c.offer ((if exit.fails then r.markFailed else r).finish (stop.since start))).1 := by
  intro r
  cases exit with
  | discarded => exact absurd rfl h
  | returned result => cases result <;> rfl
  | _ => rfl

end

/-- The microseconds of a span that is given in nanoseconds. -/
theorem toMicros_since (stop start : Clock.Reading) :
    (stop.since start).toMicros = min ((stop.nanos - start.nanos) / 1000) Numeral.maxU64 := by
  have hnanos : (stop.since start).toNanos = stop.nanos - start.nanos := by
    simp only [Clock.Reading.since, Span.ofNanos, Span.toNanos]
    omega
  rw [Span.toMicros, hnanos]

/-- **One record, however a scope is left.** A discarded scope leaves the channel as it is. Any
other way out offers one record: every field is as it was assigned last, or as it was at the start,
which is the marker for the tag; without an assigned duration it is the elapsed time, at most the
largest word. After a failure, a panic or the error of a body the record is no success: codes that
tell of a failure are kept, and the others are put in. What a failure or a body comes to is handed
back as it is. -/
theorem one_record_per_exit {ε α : Type} (marker : String) (start stop : Clock.Reading)
    (c : Channel) (edits : List Assignment) (exit : Exit ε α) :
    let opened := ShotRecord.start marker start.wall
    let r := opened.assignAll edits
    let left := leave marker start stop c edits exit
    (∀ f, r.read f = (ShotRecord.last? f edits).getD (opened.read f)) ∧
    (exit = .discarded → left.1 = c) ∧
    (exit ≠ .discarded → left.1.tally.offered = c.tally.offered + 1 ∧ ∃ m : Measurement,
      left.1 = (c.offer m).1 ∧ m.tag = r.tag ∧ m.sentAt = r.sentAt ∧
      m.intervalReal = r.intervalReal.getD
        (UInt64.ofNat (min ((stop.nanos - start.nanos) / 1000) Numeral.maxU64)) ∧
      (exit.fails = false → m.toFigures = r.toFigures) ∧
      (exit.fails = true → m.isSuccess = false ∧ m.toFigures =
        { r.toFigures with
          protoCode := if r.protoCode = 200 then 500 else r.protoCode
          netCode := if r.netCode = 0 then 1 else r.netCode })) ∧
    left.2 = exit.result? := by
  intro opened r left
  have hhanded : left.2 = exit.result? := by
    cases exit with
    | returned result => cases result <;> rfl
    | _ => rfl
  refine ⟨fun f => ShotRecord.read_assignAll edits opened f, ?_, fun hne => ?_, hhanded⟩
  · rintro rfl
    rfl
  · have hoffer : left.1 =
        (c.offer ((if exit.fails then r.markFailed else r).finish (stop.since start))).1 :=
      leave_eq_offer marker start stop c edits hne
    rw [hoffer, ← toMicros_since]
    refine ⟨c.offered_offer _, _, rfl, ?_⟩
    cases exit.fails with
    | false => exact ⟨rfl, rfl, rfl, fun _ => rfl, nofun⟩
    | true => exact ⟨rfl, rfl, rfl, nofun, fun _ => ⟨Figures.not_isSuccess_markFailed _, rfl⟩⟩

end Shot

end Volley
