import Volley.Extension.ScriptUnit
import Volley.Proofs.Script.Nesting

/-!
# The scopes of a call

A script offers a record for every measured scope that it opens, and it opens none while a name is
looked up, unless what is found is a getter.

* `emits_invokeRun`: a call offers as many records as it counts scopes, however it ends.
* `invokeRun_notFound`: a call of a name that stands for no function does nothing at all.
* `call_eq`: the count of a call starts at nothing, whatever was counted before.
-/
namespace Volley

namespace Script

/-- As many records were offered in between as scopes were counted. -/
def Emits (m m' : Machine) : Prop :=
  ∃ records : List Measurement,
    m'.world.channel = m.world.channel.offerAll records ∧ m'.steps = m.steps + records.length

/-- The records are those of the scopes in between. -/
theorem Nested.emits {m m' : Machine} (h : Nested m m') : Emits m m' := by
  obtain ⟨scopes, hnests⟩ := h
  refine ⟨scopes.closings.map Opening.record, hnests.channel, ?_⟩
  rw [hnests.steps, List.length_map]

end Script

namespace Extension

open Script

/-! ## What a request to a unit keeps -/

section
variable {R : Machine → Machine → Prop} [Effect R] {α : Type}

theorem keeps_guarded {fault : String → Fault} {x : Run α} (hx : Keeps R x) :
    Keeps R (guarded fault x) :=
  (hx.bind fun _ => .pure).tryCatch fun _ =>
    (Keeps.describe (calls_keep maxDepth)).bind fun _ => .pure

theorem keeps_guardedShown {ε : Type} {refusal : String → ε} {x : Run α} (hx : Keeps R x) :
    Keeps R (guardedShown refusal x) := by
  refine (hx.bind fun _ => .pure).tryCatch fun i => ?_
  cases i with
  | thrown v => exact Keeps.get.bind fun _ => .pure
  | tooDeep => exact .pure
  | crash => exact .throw

namespace ScriptUnit

theorem keeps_methodOf {r : Ref} {name : String} : Keeps R (methodOf r name) := by
  refine (keeps_guardedShown (Keeps.getProperty (calls_keep maxDepth))).bind fun result => ?_
  split
  · exact .pure
  · exact Keeps.objectAt.bind fun _ => .pure
  · exact .pure

theorem keeps_scenario {r : Ref} {name : String} : Keeps R (scenario r name) := by
  refine Keeps.get.bind fun m => ?_
  split
  · exact keeps_methodOf
  · exact .pure

theorem keeps_target {u : ScriptUnit} {name : String} : Keeps R (u.target name) := by
  unfold target
  split
  · exact .pure
  · exact keeps_scenario.bind fun _ => .pure
  · split
    · exact .pure
    · split
      · exact .pure
      · exact keeps_scenario.bind fun _ => .pure

theorem keeps_returnedJson {v : Value} : Keeps R (returnedJson v) := by
  unfold returnedJson
  split
  · exact .pure
  · exact .pure
  · refine Keeps.get.bind fun m => ?_
    split
    · exact .pure
    · exact .pure
    · exact .throw

theorem keeps_invokeRun (u : ScriptUnit) (name payload marker : String) :
    Keeps R (u.invokeRun name payload marker) := by
  refine keeps_target.bind fun found => ?_
  split
  · exact .pure
  · exact .pure
  · refine (keeps_guarded ((calls_keep maxDepth).keeps _ _ _)).bind fun result => ?_
    split
    · exact .pure
    · exact keeps_returnedJson.bind fun _ => .pure

end ScriptUnit
end

namespace ScriptUnit

/-- As many records as scopes, whether the call comes to an end or breaks the engine. -/
theorem emits_invokeRun (u : ScriptUnit) (name payload marker : String) (m : Machine) :
    Emits m ((u.invokeRun name payload marker).run m).2 :=
  Nested.emits (keeps_invokeRun u name payload marker m)

/-! ## Looking names up -/

/-- The object whose functions are called by name. -/
def table? (u : ScriptUnit) : Option Ref :=
  match u.spec.shape with
  | .function => none
  | .scenarios => some u.entry
  | .class _ => u.instance_

/-- What the name stands for is found without running any code: the property is no getter. -/
def FindsPlainly (u : ScriptUnit) (name : String) (m : Machine) : Prop :=
  ∀ table, u.table? = some table → ∀ owner, ownerFrom m name m.heap.size table = some owner →
    ∀ getter enumerable, m.find? owner name ≠ some (.accessor (some getter) enumerable)

theorem run_getProperty (call : Caller) {m : Machine} {r : Ref} {key : String}
    (h : ∀ getter enumerable, m.find? r key ≠ some (.accessor (some getter) enumerable)) :
    ∃ v, (getProperty call (.object r) key).run m = (.ok v, m) := by
  have hread : (getProperty call (.object r) key).run m =
      (readProperty call (.object r) (m.find? r key)).run m := rfl
  rw [hread]
  cases hp : m.find? r key with
  | none => exact ⟨_, rfl⟩
  | some p =>
    cases p with
    | data v enumerable => exact ⟨_, rfl⟩
    | accessor getter enumerable =>
      cases getter with
      | none => exact ⟨_, rfl⟩
      | some g => exact absurd hp (h g enumerable)

theorem run_methodOf {m : Machine} {r : Ref} {name : String}
    (h : ∀ getter enumerable, m.find? r name ≠ some (.accessor (some getter) enumerable)) :
    ∃ found, (methodOf r name).run m = (.ok found, m) := by
  obtain ⟨v, hv⟩ := run_getProperty Extension.call h
  have hguarded : ∀ failed : String → Fault,
      (guardedShown failed (getProperty Extension.call (.object r) name)).run m =
        (.ok (.ok v), m) := by
    intro failed
    rw [guardedShown, run_tryCatch, run_bind, hv]
    rfl
  rw [methodOf, run_bind, hguarded]
  cases v with
  | object f => exact ⟨_, rfl⟩
  | _ => exact ⟨_, rfl⟩

theorem run_scenario {m : Machine} {r : Ref} {name : String}
    (h : ∀ owner, ownerFrom m name m.heap.size r = some owner → ∀ getter enumerable,
      m.find? owner name ≠ some (.accessor (some getter) enumerable)) :
    ∃ found, (scenario r name).run m = (.ok found, m) := by
  have hget : (get : Run Machine).run m = (.ok m, m) := rfl
  rw [scenario, run_bind, hget]
  dsimp only
  cases ho : ownerFrom m name m.heap.size r with
  | none => exact ⟨_, rfl⟩
  | some owner => exact run_methodOf (h owner ho)

theorem run_target {u : ScriptUnit} {name : String} {m : Machine} (h : u.FindsPlainly name m) :
    ∃ found, (u.target name).run m = (.ok found, m) := by
  unfold target
  unfold FindsPlainly table? at h
  cases hs : u.spec.shape with
  | function => exact ⟨_, rfl⟩
  | scenarios =>
    rw [hs] at h
    obtain ⟨found, hf⟩ := run_scenario (h u.entry rfl)
    dsimp only
    rw [run_bind, hf]
    exact ⟨_, rfl⟩
  | «class» className =>
    rw [hs] at h
    dsimp only at h ⊢
    cases hi : u.instance_ with
    | none => exact ⟨_, rfl⟩
    | some r =>
      dsimp only
      split
      · exact ⟨_, rfl⟩
      · obtain ⟨found, hf⟩ := run_scenario (h r hi)
        rw [run_bind, hf]
        exact ⟨_, rfl⟩

/-- A call that finds no function has done nothing. -/
theorem invokeRun_notFound {u : ScriptUnit} {name payload marker : String} {m m' : Machine}
    (h : u.FindsPlainly name m)
    (hr : (u.invokeRun name payload marker).run m = (.ok (.ok .notFound), m')) : m' = m := by
  obtain ⟨found, hf⟩ := run_target h
  rw [invokeRun, run_bind, hf] at hr
  cases found with
  | error e => cases hr
  | ok target =>
    obtain ⟨self, f⟩ := target
    cases f with
    | none =>
      cases hr
      rfl
    | some f =>
      dsimp only at hr
      rw [run_bind] at hr
      split at hr
      · rename_i result m₁ _
        cases result with
        | error e => cases hr
        | ok v =>
          dsimp only at hr
          rw [run_bind] at hr
          split at hr <;> cases hr
      · cases hr

/-! ## The count of a call -/

/-- The machine that a call starts on, which has counted no scopes. -/
def machine (u : ScriptUnit) (w : World) : Machine :=
  { u.memory with steps := 0, world := w.look.2 }

/-- What was counted before a call is not counted for it, and what it counts is not kept. -/
theorem call_eq (u : ScriptUnit) (name payload marker : String) (w : World) :
    u.call name payload marker w =
      match (u.invokeRun name payload marker).run (u.machine w) with
      | (.ok invocation, m) =>
        (some (.ok ⟨invocation, m.world.look.1.since w.look.1, m.steps⟩),
          { u with memory := { m.toMemory with steps := 0 } }, m.world.look.2)
      | (.error _, m) => (none, { u with memory := m.toMemory }, m.world) := by
  have hstart : (u.callRun name payload marker).run { u.memory with world := w } =
      (do
        let invocation ← u.invokeRun name payload marker
        let now ← readClock
        return .ok ⟨invocation, now.since w.look.1, ← takeSteps⟩ :
          Run (Except Fault Call)).run (u.machine w) := rfl
  rw [call, runIn, settled, hstart, run_bind]
  cases (u.invokeRun name payload marker).run (u.machine w) with
  | mk result m => cases result <;> rfl

end ScriptUnit

end Extension

end Volley
