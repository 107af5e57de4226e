import Volley.Proofs.Channel.Traffic
import Volley.Proofs.Measurement.Figures
import Volley.Proofs.Script.Calls

/-!
# Nested scopes

Scopes are opened one inside the other. What a run of a script does to the channel is told by a
forest: the scopes in the order in which they were opened, each with those that were opened inside
it. Each offers one record when it is closed, after the records of the scopes inside it.

* `Opening`: a scope, with all that follows from how it is opened.
* `Nests`: the forest of the scopes between two machines; it is an effect (`nested`).
* `Settles`: what a scope offers and hands on, by what its body comes to.
* `scopes_close_in_turn`: the scopes of any script.
* `undefinedMember_fails`: a body that returns, and the scope fails all the same.
-/
namespace Volley.Script

/-! ## Values that are thrown or returned -/

section
variable {call : Caller} {shot left : Shot} {v : Value} {m m' : Machine} {i : Interrupt}

/-- Only a crash gets past an attempt. -/
theorem crash_of_attempt {α : Type} {x : Run α} (h : (attempt x).run m = (.error i, m')) :
    i = .crash := by
  obtain ⟨a, ha, -⟩ | ⟨j, between, -, h⟩ := run_tryCatch_cases h
  · cases ha
  · cases j <;> cases h
    rfl

theorem crash_of_thrownCode (h : (thrownCode call v).run m = (.error i, m')) : i = .crash := by
  cases v with
  | object r =>
    obtain h | ⟨code, between, -, h⟩ := error_of_run_bind h
    · exact crash_of_attempt h
    · split at h <;> cases h
  | _ => cases h

theorem crash_of_describeThrown (h : (describeThrown call v).run m = (.error i, m')) :
    i = .crash := by
  obtain h | ⟨seen, between, hseen, h⟩ := error_of_run_bind h
  · cases h
  · cases v with
    | object r =>
      dsimp only at h
      split at h
      · obtain h | ⟨text, _, -, h⟩ := error_of_run_bind h
        · exact crash_of_attempt h
        · split at h <;> cases h
      · cases h
    | _ => cases h

/-- Only a crash gets past the end of a scope whose body threw. -/
theorem crash_of_threw (h : (Shot.threw call shot v).run m = (.error i, m')) : i = .crash := by
  obtain h | ⟨code, _, -, h⟩ := error_of_run_bind h
  · exact crash_of_thrownCode h
  · obtain h | ⟨text, _, -, h⟩ := error_of_run_bind h
    · exact crash_of_describeThrown h
    · split at h <;> cases h

/-- A scope whose body threw is marked as failed before it takes the network code of what was
thrown. -/
theorem record_of_threw (h : (Shot.threw call shot v).run m = (.ok left, m')) :
    ∃ code : Int32, left.record = { shot.record.markFailed with netCode := code } := by
  obtain ⟨code, _, -, h⟩ := ok_of_run_bind h
  obtain ⟨_, _, -, h⟩ := ok_of_run_bind h
  cases code with
  | none =>
    cases h
    exact ⟨_, rfl⟩
  | some c =>
    cases h
    exact ⟨c, rfl⟩

/-- A scope whose body threw is failed, also with the network code of what was thrown. -/
theorem failed_of_threw (h : (Shot.threw call shot v).run m = (.ok left, m')) :
    left.record.isSuccess = false := by
  obtain ⟨code, hrecord⟩ := record_of_threw h
  have hproto : (left.record.protoCode == Code.protoOk) = false := by
    rw [hrecord]
    exact beq_false_of_ne (Figures.protoCode_markFailed_ne _)
  exact (congrArg (_ && ·) hproto).trans (Bool.and_false _)

end

/-- The object that a returned value assigns figures from: one that is no function and has a JSON
form. -/
def Machine.overrides (m : Machine) : Value → Except JsonFault (Option Json)
  | .object r =>
    if (m.object r).isCallable then .ok none
    else match m.json (.object r) with
      | .ok fields => .ok (some fields)
      | .error (.refused _) => .ok none
      | .error .broken => .error .broken
  | _ => .ok none

/-- A shot with the figures of an object, if there is one. -/
def Shot.overridden (shot : Shot) : Option Json → Shot
  | some fields => { shot with record := (shot.record.override fields).1 }
  | none => shot

theorem returned_eq (m : Machine) (shot : Shot) (v : Value) :
    Shot.returned m shot v = (m.overrides v).map (Shot.overridden shot) := by
  cases v with
  | object r =>
    simp only [Shot.returned, Machine.overrides]
    split
    · rfl
    · cases m.json (.object r) with
      | ok fields => rfl
      | error fault => cases fault <;> rfl
  | _ => rfl

theorem read_overridden (shot : Shot) (fields : Option Json) (f : Figure) :
    f.read (Shot.overridden shot fields).record =
      (fields.bind f.given?).getD (f.read shot.record) := by
  cases fields with
  | none => rfl
  | some fields => exact ShotRecord.read_override shot.record fields f

theorem tag_overridden (shot : Shot) (fields : Option Json) :
    (Shot.overridden shot fields).record.tag = shot.record.tag := by
  cases fields with
  | none => rfl
  | some fields => exact ShotRecord.tag_override shot.record fields

/-! ## One scope -/

/-- A measured scope as it is opened: how deep the calls in it may nest, its marker and its body,
and the machine before it. -/
structure Opening where
  depth : Nat
  marker : String
  body : Ref
  machine : Machine

namespace Opening
variable (o : Opening)

def call : Caller := invoke o.depth

/-- The shot that is opened. -/
def shot : Shot := (o.machine.world.openShot o.marker).1

/-- The machine that the body is called on. -/
def start : Machine := o.machine.inScope o.marker

/-- What the body comes to, and the machine after it. -/
def outcome : Except Interrupt Value × Machine := (o.call o.body .undefined []).run o.start

/-- What is made of the outcome, and the machine that the scope is closed on. -/
def left : Except Interrupt (Shot × Except Interrupt Value) × Machine :=
  (runBody o.call o.shot o.body).run o.start

/-- What the scope hands on, and the machine after it. -/
def closed : Except Interrupt Value × Machine := (runScope o.call o.marker o.body).run o.machine

/-- The shot that is closed, which a crash has marked as failed. -/
def lastShot : Shot :=
  match o.left.1 with
  | .ok (shot, _) => shot
  | .error _ => o.shot.fail

/-- The record that is offered at the end. -/
def record : Measurement := o.lastShot.finish o.left.2.world.look.1

/-- The result of a scope is that of its body; its end offers its record and counts nothing. -/
theorem closed_eq : o.closed.1 = o.left.1.bind (·.2) ∧
    o.closed.2.world.channel = (o.left.2.world.channel.offer o.record).1 ∧
    o.closed.2.steps = o.left.2.steps := by
  have hclosed : o.closed = match o.left with
      | (.ok (left, result), m) => (result, { m with world := m.world.closeShot left .completed })
      | (.error i, m) => (.error i, { m with world := m.world.closeShot o.shot .panicked }) :=
    run_runScope o.call o.marker o.body o.machine
  rw [hclosed, record, lastShot]
  cases o.left with
  | mk ended m =>
    cases ended with
    | error i => exact ⟨rfl, rfl, rfl⟩
    | ok left => exact ⟨rfl, rfl, rfl⟩

/-! ## By what the body comes to -/

variable {o} {v : Value} {after : Machine}

theorem left_of_returned (h : o.outcome = (.ok v, after)) : o.left =
    match Shot.returned after o.shot v with
    | .ok shot => (.ok (shot, .ok v), after)
    | .error _ => (.error .crash, after) := by
  have hcall : (o.call o.body .undefined []).run o.start = (.ok v, after) := h
  rw [left, runBody, run_tryCatch, run_bind, hcall]
  dsimp only
  rw [run_bind]
  have hget : (get : Run Machine).run after = (.ok after, after) := rfl
  rw [hget]
  dsimp only
  cases Shot.returned after o.shot v <;> rfl

theorem left_of_threw (h : o.outcome = (.error (.thrown v), after)) : o.left =
    match (Shot.threw o.call o.shot v).run after with
    | (.ok shot, m) => (.ok (shot, .error (.thrown v)), m)
    | (.error i, m) => (.error i, m) := by
  have hcall : (o.call o.body .undefined []).run o.start = (.error (.thrown v), after) := h
  rw [left, runBody, run_tryCatch, run_bind, hcall]
  dsimp only
  rw [run_bind]
  cases (Shot.threw o.call o.shot v).run after with
  | mk result m => cases result <;> rfl

theorem left_of_tooDeep (h : o.outcome = (.error .tooDeep, after)) :
    o.left = (.ok (o.shot.fail, .error .tooDeep), after) := by
  have hcall : (o.call o.body .undefined []).run o.start = (.error .tooDeep, after) := h
  rw [left, runBody, run_tryCatch, run_bind, hcall]
  rfl

theorem left_of_crash (h : o.outcome = (.error .crash, after)) :
    o.left = (.error .crash, after) := by
  have hcall : (o.call o.body .undefined []).run o.start = (.error .crash, after) := h
  rw [left, runBody, run_tryCatch, run_bind, hcall]
  rfl

/-- What a body that returns assigns the scope, if the engine can tell it in JSON. -/
def fields (o : Opening) (v : Value) : Except JsonFault (Option Json) := o.outcome.2.overrides v

/-- The engine breaks while a thrown value is looked at. -/
def BreaksOn (o : Opening) (v : Value) : Prop :=
  ((Shot.threw o.call o.shot v).run o.outcome.2).1 = .error .crash

theorem lastShot_of_returned (h : o.outcome.1 = .ok v) {fields : Option Json}
    (hfields : o.fields v = .ok fields) :
    o.closed.1 = .ok v ∧ o.lastShot = Shot.overridden o.shot fields := by
  have hmap : o.outcome.2.overrides v = .ok fields := hfields
  have hleft : o.left = (.ok (Shot.overridden o.shot fields, .ok v), o.outcome.2) := by
    rw [left_of_returned (Prod.ext h rfl), returned_eq, hmap]
    rfl
  rw [o.closed_eq.1, lastShot, hleft]
  exact ⟨rfl, rfl⟩

theorem failed_of_crash {m : Machine} (h : o.left = (.error .crash, m)) :
    o.closed.1 = .error .crash ∧ o.record.isSuccess = false := by
  have hlast : o.lastShot = o.shot.fail := by rw [lastShot, h]
  rw [o.closed_eq.1, h, record, hlast]
  exact ⟨rfl, Figures.not_isSuccess_markFailed _⟩

/-- A value that breaks the engine breaks it at the end of the scope that it is returned to. -/
theorem failed_of_broken (h : o.outcome.1 = .ok v) {fault : JsonFault}
    (hfields : o.fields v = .error fault) :
    o.closed.1 = .error .crash ∧ o.record.isSuccess = false := by
  have hmap : o.outcome.2.overrides v = .error fault := hfields
  have hleft : o.left = (.error .crash, o.outcome.2) := by
    rw [left_of_returned (Prod.ext h rfl), returned_eq, hmap]
    rfl
  exact failed_of_crash hleft

theorem failed_of_throw (h : o.outcome.1 = .error (.thrown v)) : o.record.isSuccess = false ∧
    (o.closed.1 = .error (.thrown v) ∨ o.closed.1 = .error .crash ∧ o.BreaksOn v) := by
  have hleft := left_of_threw (Prod.ext h rfl : o.outcome = (.error (.thrown v), o.outcome.2))
  cases hthrew : (Shot.threw o.call o.shot v).run o.outcome.2 with
  | mk result m =>
    rw [hthrew] at hleft
    cases result with
    | ok shot =>
      have hlast : o.lastShot = shot := by rw [lastShot, hleft]
      rw [o.closed_eq.1, record, hlast, hleft]
      exact ⟨failed_of_threw hthrew, .inl rfl⟩
    | error i =>
      obtain rfl := crash_of_threw hthrew
      obtain ⟨hclosed, hfailed⟩ := failed_of_crash hleft
      exact ⟨hfailed, .inr ⟨hclosed, congrArg Prod.fst hthrew⟩⟩

/-- Nothing that a body comes to changes the tag. -/
theorem tag_lastShot (o : Opening) : o.lastShot.record.tag = o.marker := by
  cases hout : o.outcome with
  | mk result after =>
    cases result with
    | ok v =>
      rw [lastShot, left_of_returned hout, returned_eq]
      cases after.overrides v with
      | ok fields => exact tag_overridden o.shot fields
      | error fault => rfl
    | error i =>
      cases i with
      | thrown v =>
        rw [lastShot, left_of_threw hout]
        cases hthrew : (Shot.threw o.call o.shot v).run after with
        | mk result m =>
          cases result with
          | ok shot =>
            obtain ⟨code, hrecord⟩ := record_of_threw hthrew
            exact congrArg ShotRecord.tag hrecord
          | error i => rfl
      | tooDeep =>
        rw [lastShot, left_of_tooDeep hout]
        rfl
      | crash =>
        rw [lastShot, left_of_crash hout]
        rfl

end Opening

/-! ## Forests of scopes -/

/-- Scopes in the order in which they were opened: the first, what was opened inside it, and those
that were opened after its end. -/
inductive Scopes where
  | none
  | first (o : Opening) (inside later : Scopes)

namespace Scopes

/-- The scopes in the order in which they were closed. -/
def closings : Scopes → List Opening
  | none => []
  | first o inside later => inside.closings ++ o :: later.closings

def append : Scopes → Scopes → Scopes
  | none, others => others
  | first o inside later, others => first o inside (later.append others)

end Scopes

/-- Nothing was counted, and of the world only the network changed. -/
def Quiet (m m' : Machine) : Prop :=
  m'.steps = m.steps ∧ ∃ network, m'.world = { m.world with network }

theorem Quiet.refl (m : Machine) : Quiet m m := ⟨rfl, _, rfl⟩

theorem Quiet.trans {a b c : Machine} (hab : Quiet a b) (hbc : Quiet b c) : Quiet a c := by
  obtain ⟨hsteps, network, hworld⟩ := hab
  obtain ⟨hsteps', network', hworld'⟩ := hbc
  refine ⟨hsteps'.trans hsteps, network', ?_⟩
  rw [hworld', hworld]

theorem Quiet.channel {m m' : Machine} (h : Quiet m m') : m'.world.channel = m.world.channel := by
  obtain ⟨-, network, hworld⟩ := h
  rw [hworld]

/-- From one machine to another just these scopes were opened and closed. -/
inductive Nests : Machine → Scopes → Machine → Prop where
  | none {m m' : Machine} (h : Quiet m m') : Nests m .none m'
  | first {m m' : Machine} {o : Opening} {inside later : Scopes} (hbefore : Quiet m o.machine)
    (hinside : Nests o.start inside o.left.2) (hlater : Nests o.closed.2 later m') :
    Nests m (.first o inside later) m'

namespace Nests
variable {a b c m m' : Machine} {scopes others : Scopes}

theorem quiet_trans (hab : Quiet a b) (hbc : Nests b scopes c) : Nests a scopes c := by
  cases hbc with
  | none h => exact .none (hab.trans h)
  | first hbefore hinside hlater => exact .first (hab.trans hbefore) hinside hlater

theorem trans (hab : Nests a scopes b) (hbc : Nests b others c) :
    Nests a (scopes.append others) c := by
  induction hab with
  | none h => exact quiet_trans h hbc
  | first hbefore hinside _ _ ih => exact .first hbefore hinside (ih hbc)

/-- Each scope offers its record when it is closed, and nothing else is offered. -/
theorem channel (h : Nests m scopes m') :
    m'.world.channel = m.world.channel.offerAll (scopes.closings.map Opening.record) := by
  induction h with
  | none h => exact h.channel
  | @first m m' o inside later hbefore _ _ ihinside ihlater =>
    have hstart : o.start.world.channel = m.world.channel := hbefore.channel
    rw [ihlater, o.closed_eq.2.1, ihinside, hstart, Scopes.closings, List.map_append,
      List.map_cons, Channel.offerAll_append]
    rfl

theorem steps (h : Nests m scopes m') : m'.steps = m.steps + scopes.closings.length := by
  induction h with
  | none h => exact h.1
  | @first m m' o inside later hbefore _ _ ihinside ihlater =>
    have hstart : o.start.steps = m.steps + 1 := congrArg (· + 1) hbefore.1
    rw [ihlater, o.closed_eq.2.2, ihinside, hstart, Scopes.closings, List.length_append,
      List.length_cons]
    omega

end Nests

/-- Some forest of scopes lies between the machines. -/
def Nested (m m' : Machine) : Prop := ∃ scopes, Nests m scopes m'

instance nested : Effect Nested where
  trans := by
    rintro a b c ⟨scopes, hab⟩ ⟨others, hbc⟩
    exact ⟨_, hab.trans hbc⟩
  inside {m _} hw hs := ⟨.none, .none ⟨hs, m.world.network, hw⟩⟩
  exchange m _ _ _ _ := ⟨.none, .none ⟨rfl, _, rfl⟩⟩
  scope := by
    rintro depth marker body m ⟨inside, hinside⟩
    let o : Opening := ⟨depth, marker, body, m⟩
    have hscope : Nests m (.first o inside .none) o.closed.2 :=
      .first (.refl m) hinside (.none (.refl _))
    exact ⟨_, hscope⟩

/-! ## What a scope offers and hands on -/

/-- What a scope offers and hands on, by what its body comes to. -/
structure Settles (o : Opening) : Prop where
  /-- A scope is what the host function runs for a marker and a function. -/
  measured (self : Value) (h : (o.machine.object o.body).isCallable = true) :
    (callNative o.call .measure self [.string o.marker, .object o.body]).run o.machine = o.closed
  offered : ∃ inside, Nests o.start inside o.left.2 ∧ o.closed.2.world.channel =
    o.machine.world.channel.offerAll (inside.closings.map Opening.record ++ [o.record])
  tag : o.record.tag = o.marker
  threw (v : Value) (h : o.outcome.1 = .error (.thrown v)) : o.record.isSuccess = false ∧
    (o.closed.1 = .error (.thrown v) ∨ o.closed.1 = .error .crash ∧ o.BreaksOn v)
  tooDeep (h : o.outcome.1 = .error .tooDeep) :
    o.record.isSuccess = false ∧ o.closed.1 = .error .tooDeep
  crashed (h : o.outcome.1 = .error .crash) :
    o.record.isSuccess = false ∧ o.closed.1 = .error .crash
  returned (v : Value) (fields : Option Json) (h : o.outcome.1 = .ok v)
    (hfields : o.fields v = .ok fields) : o.closed.1 = .ok v ∧
      o.record.netCode = (fields.bind Figure.netCode.given?).getD 0 ∧
      o.record.protoCode = (fields.bind Figure.protoCode.given?).getD 200 ∧
      ∀ f : Figure, f.read o.lastShot.record = (fields.bind f.given?).getD (f.read o.shot.record)
  broken (v : Value) (fault : JsonFault) (h : o.outcome.1 = .ok v)
    (hfields : o.fields v = .error fault) :
    o.record.isSuccess = false ∧ o.closed.1 = .error .crash

theorem settles (o : Opening) : Settles o where
  measured self h := by
    have hat : (objectAt o.body).run o.machine = (.ok (o.machine.object o.body), o.machine) := rfl
    have hmeasure : callNative o.call .measure self [.string o.marker, .object o.body] =
        (objectAt o.body >>= fun body =>
          if body.isCallable then runScope o.call o.marker o.body
          else raise .type "measure: body must be a function") := rfl
    rw [hmeasure, run_bind, hat]
    simp only [h, if_true]
    rfl
  offered := by
    obtain ⟨inside, hinside⟩ : Nested o.start o.left.2 := Keeps.runBody (calls_keep o.depth) o.start
    refine ⟨inside, hinside, ?_⟩
    rw [o.closed_eq.2.1, hinside.channel, Channel.offerAll_append]
    rfl
  tag := o.tag_lastShot
  threw _ h := Opening.failed_of_throw h
  tooDeep h := by
    have hleft := Opening.left_of_tooDeep (Prod.ext h rfl : o.outcome = (_, o.outcome.2))
    have hlast : o.lastShot = o.shot.fail := by rw [Opening.lastShot, hleft]
    rw [o.closed_eq.1, Opening.record, hlast, hleft]
    exact ⟨Figures.not_isSuccess_markFailed _, rfl⟩
  crashed h :=
    (Opening.failed_of_crash (Opening.left_of_crash (Prod.ext h rfl))).symm
  returned v fields h hfields := by
    obtain ⟨hclosed, hlast⟩ := Opening.lastShot_of_returned h hfields
    have hread : ∀ f : Figure, f.read o.lastShot.record =
        (fields.bind f.given?).getD (f.read o.shot.record) := by
      intro f
      rw [hlast]
      exact read_overridden o.shot fields f
    exact ⟨hclosed, hread .netCode, hread .protoCode, hread⟩
  broken _ _ h hfields := (Opening.failed_of_broken h hfields).symm

/-! ## Scripts -/

/-- **Scopes close in turn.** Whatever a script does, and however it ends: the scopes that it opened
form a forest, each of them offers one record under its marker when it is closed, after those of the
scopes inside it, and nothing else is offered. A scope whose body threw offers a failure and hands
on what was thrown. A scope whose body returned offers the figures of a fresh record, but for those
that the returned object gives. The exceptions are breaks of the engine: it may break while a thrown
value is looked at, and it breaks on a returned object that it cannot tell in JSON for an undefined
member; the scope is then a failure. -/
theorem scopes_close_in_turn (depth : Nat) (s : Scope) (body : List Stmt) (m : Machine) :
    let m' := ((execAll (invoke depth) s body).run m).2
    (∃ scopes : Scopes, Nests m scopes m' ∧
      m'.world.channel = m.world.channel.offerAll (scopes.closings.map Opening.record) ∧
      m'.steps = m.steps + scopes.closings.length) ∧
    ∀ o : Opening, Settles o := by
  intro m'
  obtain ⟨scopes, hnests⟩ : Nested m m' := Keeps.execAll (calls_keep depth) s body m
  exact ⟨⟨scopes, hnests, hnests.channel, hnests.steps⟩, settles⟩

def sampleMachine : Machine :=
  { Memory.start ⟨11, 0⟩ with world := .quiet 64 }

/-- A scope around statements. -/
def measured (marker : String) (body : List Stmt) : Stmt :=
  .expr (.measure [.literal (.string marker), .thunk body])

/-- A scope that fails inside one that goes on. -/
example : ((execAll (invoke 8) default
    [measured "outer" [.try [measured "inner" [.throw (.literal (.string "x"))]] []]]).run
      sampleMachine).2.world.channel.queue.map (fun r => (r.tag, r.isSuccess)) =
    [("inner", false), ("outer", true)] := by decide

/-- Returns a latency beside a size that is undefined. -/
def undefinedMember : List Stmt :=
  [.return (.object [("latency", .literal (.ofNat 3)), ("size_in", .undefined)])]

/-- The body returns, and yet its scope is a failure that knows of no latency and hands nothing
back. -/
theorem undefinedMember_fails :
    let body := (execAll (invoke 8) default undefinedMember).run sampleMachine
    let scope := (execAll (invoke 8) default [measured "step" undefinedMember]).run sampleMachine
    (∃ r, body.1 = .ok (some (.object r)) ∧
      (body.2.object r).properties.map (·.1) = ["latency", "size_in"]) ∧
    scope.1 = .error .crash ∧
    scope.2.world.channel.queue.map (fun r => (r.tag, r.netCode, r.protoCode, r.latency)) =
      [("step", 1, 500, 0)] := by
  intro body scope
  exact ⟨⟨sampleMachine.heap.size, rfl, by decide +kernel⟩, rfl, by decide +kernel⟩

end Volley.Script
