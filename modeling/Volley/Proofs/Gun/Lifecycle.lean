import Volley.Gun.Script
import Volley.Proofs.Script.Load

/-!
# The life of a script gun

A script gun is set up, fired and torn down in any order, each time in whatever world there is, and
with whatever is in the module's file then. A setup that is refused, at any of its stages, might as
well not have been called. One that comes through puts a fresh unit in the slot, and a teardown
empties it.

* `setup_cases`: a setup by its stages.
* `erase_refused`: refused setups make no difference to the gun or to the other answers.
* `slot_follows_calls`: the gun in every state that calls can lead to.
-/
namespace Volley

namespace Extension.Engine

variable {α : Type} (identity unitName : String) {u : ScriptUnit} {w : World}
  (run : ScriptUnit → World → Outcome α × ScriptUnit × World)

theorem request_of_ok {a : α} {u' : ScriptUnit} {w' : World}
    (h : run u w = (some (.ok a), u', w')) :
    (⟨identity, unitName, .running u⟩ : Engine).request w run =
      (.ok a, ⟨identity, unitName, .running u'⟩, w') := by
  simp only [request, h]

/-- A request fails if the unit answers with a fault, or with nothing at all. -/
theorem request_of_not_ok {outcome : Outcome α} {u' : ScriptUnit} {w' : World}
    (h : run u w = (outcome, u', w')) (hne : ∀ a, outcome ≠ some (.ok a)) :
    ∃ f e', (⟨identity, unitName, .running u⟩ : Engine).request w run = (.error f, e', w') := by
  rcases outcome with _ | f | a
  · simp only [request, h]
    exact ⟨_, _, rfl⟩
  · simp only [request, h]
    exact ⟨_, _, rfl⟩
  · exact absurd rfl (hne a)

end Extension.Engine

namespace ScriptGun

open Extension (Engine ScriptUnit Spec)

/-! ## Setup by its stages -/

/-- What the gun asks of its module at a time. -/
def spec (g : ScriptGun) (now : Clock.Reading) : Spec :=
  ⟨g.file, g.moduleName, g.freshIdentity now, g.role.shape⟩

/-- The gun with a unit in use that was loaded at a time. -/
def withUnit (g : ScriptGun) (now : Clock.Reading) (u : ScriptUnit) : ScriptGun :=
  { g with slot := ⟨some ⟨g.freshIdentity now, g.moduleName, .running u⟩⟩ }

/-- The setup hook of an object takes its parameter; other units have no such hook. -/
def Primed (g : ScriptGun) (started : ScriptUnit) (w : World) (u : ScriptUnit) (w' : World) :
    Prop :=
  match g.role with
  | .ultimate _ param => started.setup param w = (some (.ok ⟨⟩), u, w')
  | _ => (started, w) = (u, w')

/-- The initializer of a loaded unit takes the options, and then its setup hook the parameter. -/
def Hooked (g : ScriptGun) (loaded : ScriptUnit) (w : World) (u : ScriptUnit) (w' : World) : Prop :=
  ∃ started between, loaded.init g.options.toJson w = (some (.ok ⟨⟩), started, between) ∧
    g.Primed started between u w'

/-- All stages of a setup come through: the time limit is one, the module's file as it is now loads
with it, and its hooks throw nothing. -/
def Readied (g : ScriptGun) (fs : FileSystem) (w : World) (u : ScriptUnit) (w' : World) : Prop :=
  ∃ limit, Gun.timeLimit g.options "Script fetch timeout" defaultTimeout = .ok limit ∧
    ∃ loaded between, ScriptUnit.load (g.spec w.look.1) limit fs w.look.2 = (.ok loaded, between) ∧
      g.Hooked loaded between u w'

/-- What follows the initializer of an engine. -/
def prime (g : ScriptGun) (e : Engine) (w : World) : Except Fault Engine × World :=
  match g.role with
  | .ultimate _ param =>
    match e.setup param w with
    | (.error f, _, w) => (.error f, w)
    | (.ok _, e, w) => (.ok e, w)
  | _ => (.ok e, w)

theorem runHooks_eq (g : ScriptGun) (e : Engine) (w : World) :
    g.runHooks e w = match e.init g.options.toJson w with
      | (.error f, _, w) => (.error f, w)
      | (.ok _, e, w) => g.prime e w := rfl

section Stages
variable (g : ScriptGun) (identity : String)

theorem prime_cases (started : ScriptUnit) (w : World) :
    (∃ u w', g.Primed started w u w' ∧ w.Offers w' ∧
      g.prime ⟨identity, g.moduleName, .running started⟩ w =
        (.ok ⟨identity, g.moduleName, .running u⟩, w')) ∨
    ((∀ u w', ¬ g.Primed started w u w') ∧ ∃ f w', w.Offers w' ∧
      g.prime ⟨identity, g.moduleName, .running started⟩ w = (.error f, w')) := by
  unfold Primed prime
  cases g.role with
  | custom => exact .inl ⟨started, w, rfl, .refl w, rfl⟩
  | scenario => exact .inl ⟨started, w, rfl, .refl w, rfl⟩
  | ultimate className param =>
    have hoffers : w.Offers (started.setup param w).2.2 := started.offers_hook _ _ w
    cases hhook : started.setup param w with
    | mk outcome rest =>
    obtain ⟨u, w'⟩ := rest
    rw [hhook] at hoffers
    by_cases hok : outcome = some (.ok ⟨⟩)
    · subst hok
      have hrequest := Engine.request_of_ok identity g.moduleName (fun u w => u.setup param w) hhook
      refine .inl ⟨u, w', hhook, hoffers, ?_⟩
      simp only [Engine.setup, hrequest]
    · obtain ⟨f, e', hrequest⟩ := Engine.request_of_not_ok identity g.moduleName
        (fun u w => u.setup param w) hhook (fun _ => hok)
      refine .inr ⟨fun u w' h => hok ?_, f, w', hoffers, ?_⟩
      · exact congrArg Prod.fst (hhook.symm.trans h)
      · simp only [Engine.setup, hrequest]

/-- The hooks of a loaded unit all come through, or one of them fails. -/
theorem runHooks_cases (loaded : ScriptUnit) (w : World) :
    (∃ u w', g.Hooked loaded w u w' ∧ w.Offers w' ∧
      g.runHooks ⟨identity, g.moduleName, .running loaded⟩ w =
        (.ok ⟨identity, g.moduleName, .running u⟩, w')) ∨
    ((∀ u w', ¬ g.Hooked loaded w u w') ∧ ∃ f w', w.Offers w' ∧
      g.runHooks ⟨identity, g.moduleName, .running loaded⟩ w = (.error f, w')) := by
  have hfirst := loaded.offers_init g.options.toJson w
  cases hinit : loaded.init g.options.toJson w with
  | mk outcome rest =>
  obtain ⟨started, between⟩ := rest
  rw [hinit] at hfirst
  by_cases hok : outcome = some (.ok ⟨⟩)
  · subst hok
    have hrequest := Engine.request_of_ok identity g.moduleName
      (fun u w => u.init g.options.toJson w) hinit
    have hhooks : g.runHooks ⟨identity, g.moduleName, .running loaded⟩ w =
        g.prime ⟨identity, g.moduleName, .running started⟩ between := by
      rw [runHooks_eq]
      simp only [Engine.init, hrequest]
    rw [hhooks]
    obtain ⟨u, w', hprimed, hlater, hprime⟩ | ⟨hnone, f, w', hlater, hprime⟩ :=
      g.prime_cases identity started between
    · exact .inl ⟨u, w', ⟨started, between, hinit, hprimed⟩, hfirst.trans hlater, hprime⟩
    · refine .inr ⟨?_, f, w', hfirst.trans hlater, hprime⟩
      rintro u w' ⟨started', between', h, hprimed⟩
      cases hinit.symm.trans h
      exact hnone u w' hprimed
  · obtain ⟨f, e', hrequest⟩ := Engine.request_of_not_ok identity g.moduleName
      (fun u w => u.init g.options.toJson w) hinit (fun _ => hok)
    refine .inr ⟨?_, f, between, hfirst, ?_⟩
    · rintro u w' ⟨started', between', h, -⟩
      exact hok (congrArg Prod.fst (hinit.symm.trans h))
    · simp only [runHooks_eq, Engine.init, hrequest]

end Stages

theorem prepare_eq (g : ScriptGun) (limit : Span) (fs : FileSystem) (w : World) :
    g.prepare limit fs w = match ScriptUnit.load (g.spec w.look.1) limit fs w.look.2 with
      | (.error f, between) => (.error f, between)
      | (.ok u, between) =>
        g.runHooks ⟨g.freshIdentity w.look.1, g.moduleName, .running u⟩ between := by
  unfold prepare Engine.load spec
  obtain ⟨now, looked⟩ := w.look
  dsimp only
  cases ScriptUnit.load ⟨g.file, g.moduleName, g.freshIdentity now, g.role.shape⟩ limit fs
      looked with
  | mk result between => cases result <;> rfl

/-- The engine in the slot, if there is one, was not broken by its script. -/
def isWhole (g : ScriptGun) : Bool :=
  match g.slot.engine with
  | some ⟨_, _, .broken⟩ => false
  | _ => true

/-- An engine that is not broken goes without a word when another one takes its place. -/
theorem install_of_isWhole {g : ScriptGun} (hwhole : g.isWhole = true) (e : Engine) :
    g.install e = (.ok ⟨⟩, { g with slot := ⟨some e⟩ }) := by
  unfold isWhole at hwhole
  unfold install
  cases hslot : g.slot.engine with
  | none => simp only [Extension.Slot.install, hslot]
  | some p =>
    obtain ⟨identity, unitName, state⟩ := p
    rw [hslot] at hwhole
    cases state with
    | broken => cases hwhole
    | running u => simp only [Extension.Slot.install, hslot, Engine.shutdown]
    | closed => simp only [Extension.Slot.install, hslot, Engine.shutdown]

/-- A setup comes through in all its stages and puts a fresh unit in the slot, or it fails in one of
them and leaves the gun as it was. -/
theorem setup_cases {g : ScriptGun} (hwhole : g.isWhole = true) (fs : FileSystem) (w : World) :
    (∃ u w', g.Readied fs w u w' ∧ w.Offers w' ∧
      g.setup fs w = (.ok ⟨⟩, g.withUnit w.look.1 u, w')) ∨
    ((∀ u w', ¬ g.Readied fs w u w') ∧ ∃ a w', w.Offers w' ∧
      g.setup fs w = (.error a, g, w')) := by
  cases hlimit : Gun.timeLimit g.options "Script fetch timeout" defaultTimeout with
  | error a =>
    refine .inr ⟨?_, a, w, .refl w, by simp only [setup, hlimit]⟩
    rintro u w' ⟨limit, hok, -⟩
    cases hlimit.symm.trans hok
  | ok limit =>
    have hload : w.Offers (ScriptUnit.load (g.spec w.look.1) limit fs w.look.2).2 :=
      ScriptUnit.offers_load (g.spec w.look.1) limit fs w.look.2
    cases hl : ScriptUnit.load (g.spec w.look.1) limit fs w.look.2 with
    | mk result between =>
    rw [hl] at hload
    cases result with
    | error f =>
      have hprepare : g.prepare limit fs w = (.error f, between) := by rw [prepare_eq, hl]
      refine .inr ⟨?_, .fault f, between, hload, by simp only [setup, hlimit, hprepare]⟩
      rintro u w' ⟨limit', hok, loaded, between', h, -⟩
      cases hlimit.symm.trans hok
      cases hl.symm.trans h
    | ok loaded =>
      have hprepare : g.prepare limit fs w =
          g.runHooks ⟨g.freshIdentity w.look.1, g.moduleName, .running loaded⟩ between := by
        rw [prepare_eq, hl]
      obtain ⟨u, w', hhooked, hlater, hhooks⟩ | ⟨hnone, f, w', hlater, hhooks⟩ :=
        g.runHooks_cases (g.freshIdentity w.look.1) loaded between
      · refine .inl ⟨u, w', ⟨limit, hlimit, loaded, between, hl, hhooked⟩, hload.trans hlater, ?_⟩
        simp only [setup, hlimit, hprepare, hhooks, install_of_isWhole hwhole]
        rfl
      · refine .inr ⟨?_, .fault f, w', hload.trans hlater, ?_⟩
        · rintro u w' ⟨limit', hok, loaded', between', h, hhooked⟩
          cases hlimit.symm.trans hok
          cases hl.symm.trans h
          exact hnone u w' hhooked
        · simp only [setup, hlimit, hprepare, hhooks]

/-! ## Calls -/

/-- What a script gun is asked to do. -/
inductive Call where
  /-- With the files as they are then. -/
  | setup (fs : FileSystem)
  | shoot (m : Missile)
  | teardown

/-- The answer to a call, with how the missile ended if one was fired. -/
abbrev Answer := Except Abort (Option Fired)

def ask (g : ScriptGun) (w : World) : Call → Answer × ScriptGun × World
  | .setup fs =>
    let (r, g, w) := g.setup fs w
    (r.map fun _ => none, g, w)
  | .shoot m =>
    let (r, g, w) := g.shoot m w
    ((Abort.lift r).map some, g, w)
  | .teardown =>
    let (r, g, w) := g.teardown w
    ((Abort.lift r).map fun _ => none, g, w)

/-- A call in the world of its time, what it was answered, and the world it left. -/
structure Entry where
  call : Call
  before : World
  answer : Answer
  after : World

namespace Entry

def asked (e : Entry) : Call × World := (e.call, e.before)

/-- Whether it is a setup that failed. -/
def refused (e : Entry) : Bool :=
  match e.call, e.answer with
  | .setup _, .error _ => true
  | _, _ => false

end Entry

/-- The gun after calls, each in the world of its time. -/
def afterCalls (g : ScriptGun) (history : List (Call × World)) : ScriptGun :=
  history.foldl (fun g (call, w) => (g.ask w call).2.1) g

def entry (g : ScriptGun) (w : World) (call : Call) : Entry :=
  ⟨call, w, (g.ask w call).1, (g.ask w call).2.2⟩

/-- What calls are answered, one after the other. -/
def transcript (g : ScriptGun) : List (Call × World) → List Entry
  | [] => []
  | (call, w) :: rest => g.entry w call :: transcript (g.ask w call).2.1 rest

/-- No engine is broken at any time. -/
def calm (g : ScriptGun) : List (Call × World) → Bool
  | [] => g.isWhole
  | (call, w) :: rest => g.isWhole && calm (g.ask w call).2.1 rest

theorem isWhole_of_calm {g : ScriptGun} {history : List (Call × World)}
    (h : g.calm history = true) : g.isWhole = true := by
  cases history with
  | nil => exact h
  | cons call rest => exact (Bool.and_eq_true_iff.mp h).1

theorem isWhole_afterCalls {g : ScriptGun} {history : List (Call × World)}
    (h : g.calm history = true) : (g.afterCalls history).isWhole = true := by
  induction history generalizing g with
  | nil => exact h
  | cons call rest ih => exact ih (Bool.and_eq_true_iff.mp h).2

/-- A call that is refused leaves the gun as it was. -/
theorem ask_of_refused {g : ScriptGun} (hwhole : g.isWhole = true) {w : World} {call : Call}
    (h : (g.entry w call).refused = true) :
    (g.ask w call).2.1 = g := by
  cases call with
  | shoot m => cases h
  | teardown => cases h
  | setup fs =>
    obtain ⟨u, w', -, -, hsetup⟩ | ⟨-, a, w', -, hsetup⟩ := setup_cases hwhole fs w
    · simp only [entry, ask, hsetup] at h
      cases h
    · simp only [ask, hsetup]

/-- **Refused setups might as well not have been called**: without them all other calls get the same
answers and leave the same worlds, and the gun ends up the same. -/
theorem erase_refused {g : ScriptGun} {history : List (Call × World)}
    (hcalm : g.calm history = true) :
    let kept := (g.transcript history).filter fun e => !e.refused
    g.transcript (kept.map Entry.asked) = kept ∧
      g.afterCalls (kept.map Entry.asked) = g.afterCalls history := by
  induction history generalizing g with
  | nil => exact ⟨rfl, rfl⟩
  | cons asked rest ih =>
    obtain ⟨call, w⟩ := asked
    have hrest := ih (Bool.and_eq_true_iff.mp hcalm).2
    rw [transcript, List.filter_cons]
    show _ ∧ _ = (g.ask w call).2.1.afterCalls rest
    -- The calls after a refused one are asked of the same gun, with or without it.
    cases hr : (g.entry w call).refused with
    | true =>
      rw [if_neg (by decide), ask_of_refused (isWhole_of_calm hcalm) hr]
      rw [ask_of_refused (isWhole_of_calm hcalm) hr] at hrest
      exact hrest
    | false =>
      rw [if_pos (by decide)]
      exact ⟨congrArg (g.entry w call :: ·) hrest.1, hrest.2⟩

/-! ## The slot -/

theorem teardown_of_none {g : ScriptGun} (h : g.slot.engine = none) (w : World) :
    g.teardown w = (.ok ⟨⟩, g, w) := by
  have hslot : ({ g with slot := .empty } : ScriptGun) = g := by
    obtain ⟨role, file, moduleName, options, ⟨engine⟩, skipped⟩ := g
    cases h
    rfl
  unfold teardown
  simp only [Extension.Slot.take, h]
  rw [show (⟨none⟩ : Extension.Slot) = .empty from rfl, hslot]

/-- A teardown empties the slot, whatever comes of the hook. -/
theorem gun_teardown (g : ScriptGun) (w : World) :
    (g.teardown w).2.1 = { g with slot := .empty } := by
  unfold teardown
  cases he : g.slot.engine with
  | none =>
    simp only [Extension.Slot.take, he]
    rfl
  | some e =>
    simp only [Extension.Slot.take, he]
    cases g.role <;> rfl

/-- What the hook of an object throws is the answer of the teardown. -/
theorem teardown_of_throw {g : ScriptGun} {className param identity unitName : String}
    (hrole : g.role = .ultimate className param) {u : ScriptUnit}
    (hengine : g.slot.engine = some ⟨identity, unitName, .running u⟩) {w : World} {f : Fault}
    (hthrow : (u.teardown w).1 = some (.error f)) : (g.teardown w).1 = .error f := by
  cases hhook : u.teardown w with
  | mk outcome rest =>
  obtain ⟨u', w'⟩ := rest
  rw [hhook] at hthrow
  cases hthrow
  unfold teardown
  simp only [Extension.Slot.take, hengine, hrole, Engine.teardown, Engine.request, hhook,
    Engine.shutdown]
  rfl

/-- Nothing can be fired without an engine. -/
theorem shoot_of_none {g : ScriptGun} (h : g.slot.engine = none) (m : Missile) (w : World) :
    g.shoot m w = (.error (.extension "Extension used before setup"), g, w) := by
  unfold shoot
  simp only [Extension.Slot.current, h]

/-- **A script gun lives by its slot.** Whatever it was asked to do before, with whatever files and
in whatever worlds, as long as no engine breaks: without the setups that were refused the other
calls get the same answers and the gun is the same. Another setup comes through in all its stages
and puts the fresh unit in the slot, or it fails in one of them, leaves the gun as it was and does
no more to the channel than offer records. A teardown empties the slot, also when the hook of the
object throws, which it answers with; a second one has nothing to do. Without an engine every shot
is an error and leaves all as it was. -/
theorem slot_follows_calls {g₀ : ScriptGun} {history : List (Call × World)}
    (hcalm : g₀.calm history = true) :
    let g := g₀.afterCalls history
    let kept := (g₀.transcript history).filter fun e => !e.refused
    (g₀.transcript (kept.map Entry.asked) = kept ∧ g₀.afterCalls (kept.map Entry.asked) = g) ∧
    (∀ fs w, (∃ u w', g.Readied fs w u w' ∧ w.Offers w' ∧
        g.setup fs w = (.ok ⟨⟩, g.withUnit w.look.1 u, w')) ∨
      ((∀ u w', ¬ g.Readied fs w u w') ∧ ∃ a w', w.Offers w' ∧
        g.setup fs w = (.error a, g, w'))) ∧
    (∀ w, (g.teardown w).2.1 = { g with slot := .empty } ∧
      (∀ className param identity unitName u f, g.role = .ultimate className param →
        g.slot.engine = some ⟨identity, unitName, .running u⟩ →
        (u.teardown w).1 = some (.error f) → (g.teardown w).1 = .error f) ∧
      ∀ w', (g.teardown w).2.1.teardown w' = (.ok ⟨⟩, (g.teardown w).2.1, w')) ∧
    (g.slot.engine = none → ∀ m w, ∃ f : Fault, f.kind.category = "EXTENSION" ∧
      g.shoot m w = (.error f, g, w)) := by
  intro g kept
  refine ⟨erase_refused hcalm, setup_cases (isWhole_afterCalls hcalm), fun w => ?_,
    fun hnone m w => ⟨_, rfl, shoot_of_none hnone m w⟩⟩
  refine ⟨g.gun_teardown w, fun _ _ _ _ _ _ hrole hengine hthrow =>
    teardown_of_throw hrole hengine hthrow, fun w' => ?_⟩
  rw [gun_teardown]
  exact teardown_of_none rfl w'

/-! ## A module that changes -/

def newGun : ScriptGun :=
  ⟨.ultimate "Gun" "", "m.js", "m", .ofList [("class_name", "Gun")], .empty, 0⟩

def anyWorld : World := .quiet 8

/-- A class with one scenario, whose teardown hook throws. -/
def firstFiles : FileSystem := .ofList [("m.js", .file (Text.Utf8.bytesOf
  ("[[\"class\",\"Gun\",\x7b\"methods\":" ++
    "\x7b\"buy\":[],\"teardown\":[[\"throw\",\"late\"]]\x7d\x7d]]")))]

/-- A class whose setup hook opens a scope and then throws. -/
def laterFiles : FileSystem := .ofList [("m.js", .file (Text.Utf8.bytesOf
  ("[[\"class\",\"Gun\",\x7b\"methods\":\x7b\"setup\":" ++
    "[[\"do\",[\"measure\",\"warm\",[\"thunk\",[]]]],[\"throw\",\"no\"]]\x7d\x7d]]")))]

/-- The second setup is refused, so the shot after it is one of the first module. -/
def reload : List (Call × World) :=
  [(.shoot ⟨"p", "buy"⟩, anyWorld), (.setup firstFiles, anyWorld), (.setup laterFiles, anyWorld),
    (.shoot ⟨"p", "buy"⟩, anyWorld)]

theorem slot_follows_calls_reload :
    let g := newGun.afterCalls reload
    let kept := (newGun.transcript reload).filter fun e => !e.refused
    (newGun.calm reload = true ∧ (newGun.transcript reload).map (·.refused) =
        [false, false, true, false]) ∧
    (newGun.transcript (kept.map Entry.asked) = kept ∧
      newGun.afterCalls (kept.map Entry.asked) = g) ∧
    kept.map (fun e => (e.answer.toOption, e.after.channel.queue.map (·.tag))) =
      [(none, []), (some none, []), (some (some .measured), ["buy"])] ∧
    (∃ a w', anyWorld.Offers w' ∧ g.setup laterFiles anyWorld = (.error a, g, w')) ∧
    (g.teardown anyWorld).1.toOption = none ∧
    (g.teardown anyWorld).2.1 = { g with slot := .empty } := by
  intro g kept
  -- One evaluation for all that is to be seen of the calls.
  have hseen : newGun.calm reload = true ∧
      (newGun.transcript reload).map (·.refused) = [false, false, true, false] ∧
      ((newGun.transcript reload).filter fun e => !e.refused).map
          (fun e => (e.answer.toOption, e.after.channel.queue.map (·.tag))) =
        [(none, []), (some none, []), (some (some .measured), ["buy"])] ∧
      ((newGun.afterCalls reload).setup laterFiles anyWorld).1.toOption = none ∧
      ((newGun.afterCalls reload).teardown anyWorld).1.toOption = none := by
    decide +kernel
  obtain ⟨hcalm, hrefused, hanswers, hagain, hthrown⟩ := hseen
  obtain ⟨herased, hsetup, hteardown, -⟩ := slot_follows_calls hcalm
  refine ⟨⟨hcalm, hrefused⟩, herased, hanswers, ?_, hthrown, (hteardown anyWorld).1⟩
  obtain ⟨u, w', -, -, hok⟩ | ⟨-, hfailed⟩ := hsetup laterFiles anyWorld
  · rw [hok] at hagain
    cases hagain
  · exact hfailed

end ScriptGun

end Volley
