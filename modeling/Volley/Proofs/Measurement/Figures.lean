import Volley.Measurement

/-!
# Reading and putting the figures of a record

Every figure of an open record can be read and put in its place, and putting one in leaves the
others and the rest of the record alone. A JSON object puts in the figures that it has a fitting
value for.

* `read_put_self`, `read_put_ne`: what is read after a figure was put in.
* `read_override`: what is read after an object was applied, figure by figure.
* `protoCode_markFailed_ne`: a record that was marked is a failure by its protocol code alone.
-/
namespace Volley

/-- A record that was marked as failed is no success, whatever network code is put in place. -/
theorem Figures.protoCode_markFailed_ne (f : Figures) : f.markFailed.protoCode ≠ Code.protoOk := by
  simp only [markFailed]
  split
  · decide
  · assumption

namespace Figure

/-- What an open record holds of a figure. -/
abbrev Value : Figure → Type
  | intervalReal => Option UInt64
  | netCode => Int32
  | protoCode => Int32
  | _ => UInt64

def read : (f : Figure) → ShotRecord → f.Value
  | intervalReal, r => r.intervalReal
  | connectTime, r => r.connectTime
  | sendTime, r => r.sendTime
  | latency, r => r.latency
  | receiveTime, r => r.receiveTime
  | intervalEvent, r => r.intervalEvent
  | sizeOut, r => r.sizeOut
  | sizeIn, r => r.sizeIn
  | netCode, r => r.netCode
  | protoCode, r => r.protoCode

def put : (f : Figure) → f.Value → ShotRecord → ShotRecord
  | intervalReal, x, r => { r with intervalReal := x }
  | connectTime, x, r => { r with connectTime := x }
  | sendTime, x, r => { r with sendTime := x }
  | latency, x, r => { r with latency := x }
  | receiveTime, x, r => { r with receiveTime := x }
  | intervalEvent, x, r => { r with intervalEvent := x }
  | sizeOut, x, r => { r with sizeOut := x }
  | sizeIn, x, r => { r with sizeIn := x }
  | netCode, x, r => { r with netCode := x }
  | protoCode, x, r => { r with protoCode := x }

/-- What a JSON value gives a figure, if it is one for it. -/
def value? : (f : Figure) → Json → Option f.Value
  | intervalReal, j => (counter? j).map some
  | connectTime, j => counter? j
  | sendTime, j => counter? j
  | latency, j => counter? j
  | receiveTime, j => counter? j
  | intervalEvent, j => counter? j
  | sizeOut, j => counter? j
  | sizeIn, j => counter? j
  | netCode, j => code? j
  | protoCode, j => code? j

theorem mem_all (f : Figure) : f ∈ all := by cases f <;> decide

@[simp] theorem read_put_self (f : Figure) (x : f.Value) (r : ShotRecord) :
    f.read (f.put x r) = x := by
  cases f <;> rfl

@[simp] theorem read_put_ne {f g : Figure} (h : f ≠ g) (x : g.Value) (r : ShotRecord) :
    f.read (g.put x r) = f.read r := by
  cases f <;> cases g <;> first | rfl | exact absurd rfl h

@[simp] theorem tag_put (f : Figure) (x : f.Value) (r : ShotRecord) : (f.put x r).tag = r.tag := by
  cases f <;> rfl

@[simp] theorem sentAt_put (f : Figure) (x : f.Value) (r : ShotRecord) :
    (f.put x r).sentAt = r.sentAt := by
  cases f <;> rfl

/-- To assign a figure is to put in what the value gives it. -/
theorem assign?_eq (f : Figure) (j : Json) (r : ShotRecord) :
    f.assign? j r = (f.value? j).map fun x => f.put x r := by
  cases f <;> simp only [assign?, value?, put, Option.map_map, Function.comp_def]

/-- What an object gives a figure. -/
def given? (f : Figure) (v : Json) : Option f.Value := (v.get? f.name).bind f.value?

/-- Puts in what an object gives a figure, if it gives it anything. -/
def give (v : Json) (r : ShotRecord) (f : Figure) : ShotRecord :=
  match f.given? v with
  | some x => f.put x r
  | none => r

theorem read_give_self (f : Figure) (v : Json) (r : ShotRecord) :
    f.read (give v r f) = (f.given? v).getD (f.read r) := by
  unfold give
  cases f.given? v <;> simp

theorem read_give_ne {f g : Figure} (h : f ≠ g) (v : Json) (r : ShotRecord) :
    f.read (give v r g) = f.read r := by
  unfold give
  cases g.given? v <;> simp [h]

/-- Of several figures each is read as the object gives it. -/
theorem read_foldl_give {figures : List Figure} (hnodup : figures.Nodup) (f : Figure) (v : Json)
    (r : ShotRecord) : f.read (figures.foldl (give v) r) =
      if f ∈ figures then (f.given? v).getD (f.read r) else f.read r := by
  induction figures generalizing r with
  | nil => simp
  | cons g figures ih =>
    have hg := List.nodup_cons.mp hnodup
    rw [List.foldl_cons, ih hg.2]
    by_cases h : f = g
    · subst h
      simp [hg.1, read_give_self]
    · simp [h, read_give_ne]

end Figure

namespace ShotRecord

open Figure (give given?)

/-- A record that an object was applied to holds what the object gives. -/
theorem override_fst (r : ShotRecord) (v : Json) :
    (r.override v).1 = Figure.all.foldl (give v) r := by
  refine (List.foldl_hom Prod.fst ?_).symm
  rintro ⟨edited, count⟩ f
  have hassign : ((v.get? f.name).bind fun j => f.assign? j edited) =
      (f.given? v).map fun x => f.put x edited := by
    simp only [Figure.assign?_eq, given?, Option.map_bind, Function.comp_def]
  simp only [hassign, give]
  cases f.given? v <;> rfl

/-- An object assigns figures, and never the tag. -/
theorem tag_override (r : ShotRecord) (v : Json) : (r.override v).1.tag = r.tag := by
  rw [override_fst]
  refine List.foldlRecOn (motive := fun edited : ShotRecord => edited.tag = r.tag) Figure.all _ rfl
    fun edited hedited f _ => ?_
  rw [give]
  split
  · exact (f.tag_put _ edited).trans hedited
  · exact hedited

/-- **An object is applied figure by figure.** A figure that the object gives is what it gives; any
other is as before. -/
theorem read_override (r : ShotRecord) (v : Json) (f : Figure) :
    f.read (r.override v).1 = (f.given? v).getD (f.read r) := by
  rw [override_fst, Figure.read_foldl_give (by decide), if_pos f.mem_all]

end ShotRecord

end Volley
