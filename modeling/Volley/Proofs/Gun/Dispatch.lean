import Mathlib.Data.List.Perm.Subperm
import Volley.Proofs.Gun.Scopes

/-!
# The function that a name stands for

A table of scenarios and the object of a class are asked for a function by name. The name is looked
for on the object and on its parents, up to the root of all objects, and the first that has it for
its own decides: its function is called, and anything else that it holds is no scenario, whatever its
own parents hold. A getter decides by what it gives, which is found out by running it.

* `Chain`: an object and its parents below the root; `ownerFrom_eq_find?` is the search along it.
* `methodOf_data`, `methodOf_getter`: what a property of the owner comes to.
* `calls_first_owner`: the outcome of a call, by what the first owner holds.
* `getter_runs_before_notFound`: a name that stands for no function, and code runs for it.
-/
namespace Volley

namespace Script

/-! ## Chains of objects -/

namespace Machine
variable {m : Machine} {r : Ref} {chain : List Ref} {name : String}

/-- The objects from one on, each followed by its parent, up to the root of all objects. -/
inductive Chain (m : Machine) : Ref → List Ref → Prop where
  | root : Chain m Intrinsic.objectPrototype []
  | next {r parent : Ref} {rest : List Ref} (hr : r ≠ Intrinsic.objectPrototype)
    (hparent : (m.object r).parent = some parent) (hrest : Chain m parent rest) :
    Chain m r (r :: rest)

/-- Whether an object has a name for its own. -/
def owns (m : Machine) (name : String) (r : Ref) : Bool := ((m.object r).own? name).isSome

/-- An object of the chain holds a property under a name that no object before it owns. -/
def FirstOwner (m : Machine) (chain : List Ref) (name : String) (owner : Ref) (p : Property) :
    Prop :=
  ∃ before after, chain = before ++ owner :: after ∧
    (∀ r ∈ before, (m.object r).own? name = none) ∧ (m.object owner).own? name = some p

/-- There is nothing on an object that is not there. -/
theorem object_of_le (h : m.heap.size ≤ r) : m.object r = ⟨.ordinary, none, []⟩ := by
  have hnone : m.heap[r]? = none := Array.getElem?_eq_none h
  rw [object, Array.getD_eq_getD_getElem?, hnone]
  rfl

theorem lt_size_of_parent {parent : Ref} (h : (m.object r).parent = some parent) :
    r < m.heap.size := by
  refine Nat.lt_of_not_le fun hout => ?_
  rw [object_of_le hout] at h
  cases h

theorem lt_size_of_own {p : Property} (h : (m.object r).own? name = some p) :
    r < m.heap.size := by
  refine Nat.lt_of_not_le fun hout => ?_
  rw [object_of_le hout] at h
  cases h

namespace Chain

theorem unique (h : m.Chain r chain) {other : List Ref} (hother : m.Chain r other) :
    chain = other := by
  induction h generalizing other with
  | root =>
    cases hother with
    | root => rfl
    | next hr _ _ => exact absurd rfl hr
  | next hr hparent _ ih =>
    cases hother with
    | root => exact absurd rfl hr
    | next _ hparent' hrest' =>
      obtain rfl := Option.some.inj (hparent.symm.trans hparent')
      rw [ih hrest']

/-- From each object on the chain goes on as the rest of it. -/
theorem from_mem (h : m.Chain r chain) {o : Ref} (ho : o ∈ chain) :
    ∃ rest, m.Chain o rest ∧ rest.length ≤ chain.length := by
  induction h with
  | root => cases ho
  | next hr hparent hrest ih =>
    rcases List.mem_cons.mp ho with rfl | ho
    · exact ⟨_, .next hr hparent hrest, Nat.le_refl _⟩
    · obtain ⟨rest, hrest, hle⟩ := ih ho
      exact ⟨rest, hrest, Nat.le_succ_of_le hle⟩

/-- No object comes twice: the chain would be longer than itself. -/
theorem nodup (h : m.Chain r chain) : chain.Nodup := by
  induction h with
  | root => exact List.nodup_nil
  | @next r parent rest hr hparent hrest ih =>
    refine List.nodup_cons.mpr ⟨fun hmem => ?_, ih⟩
    obtain ⟨again, hagain, hle⟩ := hrest.from_mem hmem
    have hsame := (Chain.next hr hparent hrest).unique hagain
    have hlength : again.length = rest.length + 1 := by rw [← hsame, List.length_cons]
    omega

theorem lt_size (h : m.Chain r chain) : ∀ o ∈ chain, o < m.heap.size := by
  induction h with
  | root => nofun
  | next _ hparent _ ih =>
    intro o ho
    rcases List.mem_cons.mp ho with rfl | ho
    · exact lt_size_of_parent hparent
    · exact ih o ho

theorem length_le (h : m.Chain r chain) : chain.length ≤ m.heap.size := by
  have hsubset : chain ⊆ List.range m.heap.size := fun o ho => List.mem_range.mpr (h.lt_size o ho)
  have hle := (List.subperm_of_subset h.nodup hsubset).length_le
  rwa [List.length_range] at hle

end Chain
end Machine
end Script

namespace Extension

open Script

namespace ScriptUnit
variable {m : Machine} {r : Ref} {chain : List Ref} {name : String}

/-- The search goes along the chain, however many steps it may take beyond it. -/
theorem ownerFrom_of_chain (h : m.Chain r chain) {limit : Nat} (hlimit : chain.length ≤ limit) :
    ownerFrom m name limit r = chain.find? (m.owns name) := by
  induction h generalizing limit with
  | root => cases limit <;> simp [ownerFrom]
  | @next r parent rest hr hparent _ ih =>
    cases limit with
    | zero => cases hlimit
    | succ limit =>
      rw [ownerFrom, if_neg hr, List.find?_cons]
      unfold Machine.owns at ih ⊢
      cases hown : (m.object r).own? name with
      | some p => simp
      | none =>
        simp only [hparent]
        exact ih (Nat.le_of_succ_le_succ hlimit)

theorem ownerFrom_eq_find? (h : m.Chain r chain) :
    ownerFrom m name m.heap.size r = chain.find? (m.owns name) :=
  ownerFrom_of_chain h h.length_le

theorem run_scenario_eq (h : m.Chain r chain) : (scenario r name).run m =
    match chain.find? (m.owns name) with
    | some owner => (methodOf owner name).run m
    | none => (.ok (.ok none), m) := by
  have hget : (get : Run Machine).run m = (.ok m, m) := rfl
  rw [scenario, run_bind, hget]
  dsimp only
  rw [ownerFrom_eq_find? h]
  cases chain.find? (m.owns name) <;> rfl

theorem run_scenario_of_none (h : m.Chain r chain)
    (hnone : ∀ o ∈ chain, (m.object o).own? name = none) :
    (scenario r name).run m = (.ok (.ok none), m) := by
  have hfind : chain.find? (m.owns name) = none := by
    rw [List.find?_eq_none]
    intro o ho
    simp [Machine.owns, hnone o ho]
  rw [run_scenario_eq h, hfind]

theorem run_scenario_of_owner (h : m.Chain r chain) {owner : Ref} {p : Property}
    (howner : m.FirstOwner chain name owner p) :
    (scenario r name).run m = (methodOf owner name).run m := by
  obtain ⟨before, after, rfl, hbefore, hown⟩ := howner
  have hskip : before.find? (m.owns name) = none := by
    rw [List.find?_eq_none]
    intro o ho
    simp [Machine.owns, hbefore o ho]
  have howns : m.owns name owner = true := by simp [Machine.owns, hown]
  rw [run_scenario_eq h, List.find?_append, hskip, Option.none_or, List.find?_cons, howns]

/-! ## What the owner holds -/

/-- The function that a value is, if it is one. -/
def function? (m : Machine) : Value → Option Ref
  | .object f => if (m.object f).isCallable then some f else none
  | _ => none

theorem function?_of_not_callable {v : Value} (h : m.isCallable v = false) :
    function? m v = none := by
  cases v with
  | object f => exact if_neg (Bool.eq_false_iff.mp h)
  | _ => rfl

theorem eq_object_of_function {v : Value} (h : (function? m v).isSome = true) :
    ∃ f, v = .object f ∧ (m.object f).isCallable = true := by
  cases v with
  | object f =>
    refine ⟨f, rfl, ?_⟩
    by_contra hidle
    rw [function?, if_neg hidle] at h
    cases h
  | _ => cases h

/-- Reads what a name stands for, with a fault for what interrupts it. -/
def readGuarded (name : String) (x : Run Value) : Run (Except Fault Value) :=
  guardedShown (fun text => .extension ("Failed to read '" ++ name ++ "': " ++ text)) x

theorem find?_of_own {p : Property} (h : (m.object r).own? name = some p) :
    m.find? r name = some p := by
  have hsize : 0 < m.heap.size := Nat.zero_lt_of_lt (Machine.lt_size_of_own h)
  obtain ⟨limit, hlimit⟩ := Nat.exists_eq_add_of_lt hsize
  rw [Machine.find?, hlimit, Nat.zero_add, Machine.findFrom, h]

/-- What a property comes to is guarded, and it is a function or nothing. -/
theorem run_methodOf_eq {p : Property} (h : (m.object r).own? name = some p) :
    (methodOf r name).run m =
      match (readGuarded name (readProperty Extension.call (.object r) (some p))).run m with
      | (.ok (.ok v), m') => (.ok (.ok (function? m' v)), m')
      | (.ok (.error e), m') => (.ok (.error e), m')
      | (.error i, m') => (.error i, m') := by
  have hread : (readGuarded name (getProperty Extension.call (.object r) name)).run m =
      (readGuarded name (readProperty Extension.call (.object r) (some p))).run m := by
    have hget : (getProperty Extension.call (.object r) name).run m =
        (readProperty Extension.call (.object r) (m.find? r name)).run m := rfl
    rw [readGuarded, readGuarded, guardedShown, guardedShown, run_tryCatch, run_tryCatch, run_bind,
      run_bind, hget, find?_of_own h]
  show (readGuarded name (getProperty Extension.call (.object r) name) >>= _).run m = _
  rw [run_bind, hread]
  cases (readGuarded name (readProperty Extension.call (.object r) (some p))).run m with
  | mk result m' =>
    rcases result with i | e | v
    · rfl
    · rfl
    · cases v <;> rfl

theorem methodOf_data {v : Value} {enumerable : Bool}
    (h : (m.object r).own? name = some (.data v enumerable)) :
    (methodOf r name).run m = (.ok (.ok (function? m v)), m) := run_methodOf_eq h

theorem methodOf_blank {enumerable : Bool}
    (h : (m.object r).own? name = some (.accessor none enumerable)) :
    (methodOf r name).run m = (.ok (.ok none), m) := run_methodOf_eq h

theorem methodOf_getter {getter : Ref} {enumerable : Bool}
    (h : (m.object r).own? name = some (.accessor (some getter) enumerable)) :
    (methodOf r name).run m =
      match (readGuarded name (Extension.call getter (.object r) [])).run m with
      | (.ok (.ok v), m') => (.ok (.ok (function? m' v)), m')
      | (.ok (.error e), m') => (.ok (.error e), m')
      | (.error i, m') => (.error i, m') := run_methodOf_eq h

/-! ## Calls -/

/-- The names that no call of a class's object stands for. -/
def reserves (u : ScriptUnit) (name : String) : Bool :=
  match u.spec.shape with
  | .class _ => reservedMethods.contains name
  | _ => false

/-- The value that the functions of a table or an object are called on. -/
def receiver (u : ScriptUnit) (table : Ref) : Value :=
  match u.spec.shape with
  | .class _ => .object table
  | _ => .undefined

section
variable (u : ScriptUnit) (table : Ref) (name payload marker : String)

/-- Calls a function on the receiver with the payload and the marker. -/
def runFunction (f : Ref) : Run (Except Fault Invocation) := do
  let failed (text : String) : Fault := .extension (name ++ ": " ++ text)
  let args : List Value := [.string payload, .string marker]
  match ← guarded failed (Extension.call f (u.receiver table) args) with
  | .error e => return .error e
  | .ok v => return .ok (.completed (← returnedJson v))

/-- What a call comes to when its name stands for a value. -/
def callFound (v : Value) (m : Machine) : Except Interrupt (Except Fault Invocation) × Machine :=
  match function? m v with
  | some f => (u.runFunction table name payload marker f).run m
  | none => (.ok (.ok .notFound), m)

end

section
variable {u : ScriptUnit} {table : Ref} (payload marker : String)

theorem invokeRun_of_reserved (htable : u.table? = some table) (h : u.reserves name = true) :
    (u.invokeRun name payload marker).run m = (.ok (.ok .notFound), m) := by
  unfold reserves at h
  unfold table? at htable
  cases hs : u.spec.shape with
  | «class» className =>
    simp only [hs] at h htable
    have htarget : u.target name = (return .ok (.object table, none)) := by
      unfold target
      rw [hs, htable]
      exact if_pos h
    rw [invokeRun, run_bind, htarget]
    rfl
  | _ =>
    rw [hs] at h
    cases h

/-- A name that is not reserved is looked for on the table. -/
theorem invokeRun_of_scenario (htable : u.table? = some table) (h : u.reserves name = false) :
    (u.invokeRun name payload marker).run m = match (scenario table name).run m with
      | (.ok (.ok (some f)), m') => (u.runFunction table name payload marker f).run m'
      | (.ok (.ok none), m') => (.ok (.ok .notFound), m')
      | (.ok (.error e), m') => (.ok (.error e), m')
      | (.error i, m') => (.error i, m') := by
  have htarget : u.target name = do
      return (← scenario table name).map fun f => (u.receiver table, f) := by
    unfold reserves at h
    unfold table? at htable
    unfold target receiver
    cases hs : u.spec.shape with
    | function =>
      rw [hs] at htable
      cases htable
    | scenarios =>
      rw [hs] at htable
      cases htable
      rfl
    | «class» className =>
      simp only [hs] at h htable
      rw [htable]
      exact if_neg (Bool.eq_false_iff.mp h)
  rw [invokeRun, run_bind, htarget, run_bind]
  cases (scenario table name).run m with
  | mk result m' =>
    rcases result with i | e | f
    · rfl
    · rfl
    · cases f <;> rfl

end

end ScriptUnit
end Extension

namespace ScriptGun

open Extension (ScriptUnit)
open Script (Machine Property Ref Value Expr Module)

/-- **The first owner decides.** For a table of scenarios, or the object of a class, whose parents
end in the root of all objects: a reserved name is not found, nor is one that no object below the
root owns. Otherwise the first object that owns the name decides. A function that it holds is called
on the receiver, and any other value is not found; nothing runs for it, and it hides what the parents
hold. If it holds a getter, that is run on it, once: what it gives is called or not found, and what
it throws is the error of the call. A shot calls by the name of its scenario and hands that over. -/
theorem calls_first_owner {u : ScriptUnit} {table : Ref} (htable : u.table? = some table)
    {m : Machine} {chain : List Ref} (hchain : m.Chain table chain) (name payload marker : String) :
    let outcome := (u.invokeRun name payload marker).run m
    let notFound := (.ok (.ok .notFound), m)
    (u.reserves name = true → outcome = notFound) ∧
    (u.reserves name = false →
      ((∀ r ∈ chain, (m.object r).own? name = none) → outcome = notFound) ∧
      (∀ owner v enumerable, m.FirstOwner chain name owner (.data v enumerable) →
        (∀ f, v = .object f → (m.object f).isCallable = true →
          outcome = (u.runFunction table name payload marker f).run m) ∧
        (m.isCallable v = false → outcome = notFound)) ∧
      (∀ owner enumerable, m.FirstOwner chain name owner (.accessor none enumerable) →
        outcome = notFound) ∧
      ∀ owner getter enumerable,
        m.FirstOwner chain name owner (.accessor (some getter) enumerable) →
        outcome = match
            (ScriptUnit.readGuarded name (Extension.call getter (.object owner) [])).run m with
          | (.ok (.ok v), m') => u.callFound table name payload marker v m'
          | (.ok (.error e), m') => (.ok (.error e), m')
          | (.error i, m') => (.error i, m')) ∧
    ∀ g : ScriptGun, g.role ≠ .custom → g.unit? = some u → ∀ missile w,
      let scenario := Missile.scenarioName missile.marker
      g.script? missile w = some ((u.invokeRun scenario missile.payload scenario).run
        (u.machine (w.openShot missile.marker).2)) := by
  intro outcome notFound
  refine ⟨ScriptUnit.invokeRun_of_reserved payload marker htable, fun hopen => ?_,
    fun g hrole hunit missile w => ?_⟩
  · have hcall := ScriptUnit.invokeRun_of_scenario (m := m) payload marker htable hopen
    refine ⟨fun hnone => ?_, fun owner v enumerable howner => ?_, fun owner enumerable howner => ?_,
      fun owner getter enumerable howner => ?_⟩
    · rw [ScriptUnit.run_scenario_of_none hchain hnone] at hcall
      exact hcall
    · obtain ⟨-, -, -, -, hown⟩ := id howner
      rw [ScriptUnit.run_scenario_of_owner hchain howner, ScriptUnit.methodOf_data hown] at hcall
      refine ⟨?_, fun hvalue => ?_⟩
      · rintro f rfl hfunction
        rw [ScriptUnit.function?, if_pos hfunction] at hcall
        exact hcall
      · rw [ScriptUnit.function?_of_not_callable hvalue] at hcall
        exact hcall
    · obtain ⟨-, -, -, -, hown⟩ := id howner
      rw [ScriptUnit.run_scenario_of_owner hchain howner, ScriptUnit.methodOf_blank hown] at hcall
      exact hcall
    · obtain ⟨-, -, -, -, hown⟩ := id howner
      rw [ScriptUnit.run_scenario_of_owner hchain howner, ScriptUnit.methodOf_getter hown] at hcall
      refine hcall.trans ?_
      cases (ScriptUnit.readGuarded name (Extension.call getter (.object owner) [])).run m with
      | mk result m' =>
        rcases result with i | e | v
        · rfl
        · rfl
        · dsimp only [ScriptUnit.callFound]
          cases ScriptUnit.function? m' v <;> rfl
  · have htarget : g.target missile.marker =
        (Missile.scenarioName missile.marker, Missile.scenarioName missile.marker) := by
      unfold target
      cases hg : g.role with
      | custom => exact absurd hg hrole
      | _ => rfl
    rw [script?, hunit, htarget]
    rfl

/-! ## Two tables -/

/-- A unit with a table of scenarios. -/
def loadedTable (scenarios : Expr) : ScriptUnit :=
  let spec : Extension.Spec := ⟨"m.js", "m", "m", .scenarios⟩
  match unitOf spec [.binding .const "SCENARIOS" scenarios] with
  | some u => u
  | none => ⟨spec, .start ⟨11, 0⟩, Script.Intrinsic.objectPrototype, none⟩

/-- What a property holds, if it is a value that is enumerated. -/
def shown? : Property → Option Value
  | .data v true => some v
  | _ => none

theorem eq_data_of_shown {o : Option Property} {test : Value → Bool}
    (h : (o.bind shown?).any test = true) : ∃ v, o = some (.data v true) ∧ test v = true := by
  rcases o with - | ⟨v, - | -⟩ | ⟨getter, enumerable⟩
  · cases h
  · cases h
  · exact ⟨v, rfl, h⟩
  · cases h

/-- A table whose parent has two scenarios, one of them hidden by a number. -/
def hidesOne : ScriptUnit :=
  loadedTable (.create (.object [("buy", .function [step "bought"]), ("sell", .function [])])
    [("sell", .literal (.ofNat 5))])

theorem calls_first_owner_hidesOne :
    let m := hidesOne.machine sampleWorld
    let table : Ref := 50
    let parent : Ref := 49
    (hidesOne.table? = some table ∧ m.Chain table [table, parent]) ∧
    (hidesOne.invokeRun "sell" "p" "sell").run m = (.ok (.ok .notFound), m) ∧
    (hidesOne.invokeRun "toString" "p" "toString").run m = (.ok (.ok .notFound), m) ∧
    ∃ f, (m.object parent).own? "buy" = some (.data (.object f) true) ∧
      (hidesOne.invokeRun "buy" "p" "buy").run m =
        (hidesOne.runFunction table "buy" "p" "buy" f).run m := by
  intro m table parent
  have htable : hidesOne.table? = some table := by decide +kernel
  have hchain : m.Chain table [table, parent] :=
    .next (by decide) (by decide +kernel) (.next (by decide) (by decide +kernel) .root)
  have hshape : hidesOne.spec.shape = .scenarios := by decide +kernel
  have hfree (name : String) : hidesOne.reserves name = false := by
    rw [ScriptUnit.reserves, hshape]
  refine ⟨⟨htable, hchain⟩, ?_, ?_, ?_⟩
  · obtain ⟨-, hopen, -⟩ := calls_first_owner htable hchain "sell" "p" "sell"
    obtain ⟨-, hvalue, -⟩ := hopen (hfree _)
    have hheld : (((m.object table).own? "sell").bind shown?).any (!m.isCallable ·) = true := by
      decide +kernel
    obtain ⟨v, hown, hidle⟩ := eq_data_of_shown hheld
    exact (hvalue table v true ⟨[], [parent], rfl, nofun, hown⟩).2 (Bool.not_eq_true' _ |>.mp hidle)
  · obtain ⟨-, hopen, -⟩ := calls_first_owner htable hchain "toString" "p" "toString"
    obtain ⟨hmissing, -⟩ := hopen (hfree _)
    have hnone : ∀ r ∈ [table, parent], m.owns "toString" r = false := by decide +kernel
    exact hmissing fun r hr => by simpa [Machine.owns] using hnone r hr
  · obtain ⟨-, hopen, -⟩ := calls_first_owner htable hchain "buy" "p" "buy"
    obtain ⟨-, hvalue, -⟩ := hopen (hfree _)
    have hheld : (((m.object parent).own? "buy").bind shown?).any
        (fun v => (ScriptUnit.function? m v).isSome) = true := by decide +kernel
    obtain ⟨v, hown, hfunction⟩ := eq_data_of_shown hheld
    obtain ⟨f, rfl, hcallable⟩ := ScriptUnit.eq_object_of_function hfunction
    have hnone : m.owns "buy" table = false := by decide +kernel
    have hfirst : m.FirstOwner [table, parent] "buy" parent (.data (.object f) true) := by
      refine ⟨[table], [], rfl, fun r hr => ?_, hown⟩
      obtain rfl := List.mem_singleton.mp hr
      simpa [Machine.owns] using hnone
    exact ⟨f, hown, (hvalue parent _ true hfirst).1 f rfl hcallable⟩

/-- A table with a getter that opens a scope and gives a number. -/
def looksFirst : ScriptUnit :=
  loadedTable (.getter "probe" [step "looked", .return (.literal (.ofNat 5))])

/-- The name stands for no function, and code ran to find that out. -/
theorem getter_runs_before_notFound :
    let m := looksFirst.machine sampleWorld
    let run := (looksFirst.invokeRun "probe" "p" "probe").run m
    (∃ table, looksFirst.table? = some table ∧ m.Chain table [table]) ∧
    run.1 = .ok (.ok .notFound) ∧ run.2.steps = 1 ∧
    run.2.world.channel.queue.map (·.tag) = ["looked"] := by
  intro m run
  have hchain : m.Chain looksFirst.entry [looksFirst.entry] :=
    .next (by decide +kernel) (by decide +kernel) .root
  exact ⟨⟨looksFirst.entry, by decide +kernel, hchain⟩, rfl, by decide +kernel, by decide +kernel⟩

end ScriptGun
end Volley
