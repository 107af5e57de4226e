import Volley.Extension.Engine
import Volley.Proofs.Script.Scopes

/-!
# What loading and hooks do to a machine

Modules, classes and constructors are made of the same steps as calls, so they keep every effect as
well. Of a channel they can therefore only do what a measured scope does.

* `keeps_construct`: constructing by any function keeps every effect.
* `Offers`: what a request can do to the channel of its world.
* `offers_load`, `offers_init`, `offers_hook`: requests before the first call and after the last.
-/
namespace Volley

namespace Script

namespace Keeps

variable {R : Machine → Machine → Prop} [Effect R] {call : Caller} (hc : CallsKeep R call)

/-! ## Modules -/

theorem makeObject {kind : Kind} {parent : Option Ref} {properties : List (String × Property)} :
    Keeps R (makeObject kind parent properties) := allocate

theorem makeMethod {name : String} {body : List Stmt} {hasParameters : Bool} :
    Keeps R (makeMethod name body hasParameters) := makeFunction

theorem defineGlobal {name : String} {v : Value} : Keeps R (defineGlobal name v) := define

theorem declareLexical {name : String} {v : Value} : Keeps R (declareLexical name v) :=
  modifyGet fun _ => ⟨rfl, rfl⟩

include hc in
/-- Reading what instances of a parent inherit from. -/
theorem parentPrototype (f : Ref) : Keeps R (do
    match ← Script.getProperty call (.object f) "prototype" with
    | .object p => return (f, some p)
    | .null => return (f, none)
    | _ => Script.raise .type "superclass prototype must be an object or null") := by
  refine (getProperty hc).bind fun proto => ?_
  cases proto with
  | object p => exact pure
  | null => exact pure
  | _ => exact raise

include hc in
theorem parentClass {name : String} : Keeps R (parentClass call name) := by
  refine (globalValue hc).bind fun v => ?_
  cases v with
  | object f =>
    refine objectAt.bind fun o => ?_
    split
    · exact raise.bind fun _ => parentPrototype hc f
    · exact parentPrototype hc f
  | _ => exact raise

/-- Making the two objects of a class and their members, once the parent is known. -/
theorem makeMembers {name : String} {body : ClassBody} (parent protoParent : Option Ref) :
    Keeps R (do
      let proto ← Script.makeObject .ordinary protoParent []
      let length := if body.constructor.isSome then 2 else 0
      let f ← Script.makeObject
        (.function (.classBody ⟨parent, body.constructor, body.fields, classScope⟩))
        (some (parent.getD Intrinsic.functionPrototype))
        [("length", .hidden (.ofNat length)), ("name", .hidden (.string name)),
          ("prototype", .hidden (.object proto))]
      Script.define proto "constructor" (.hidden (.object f))
      for (k, b) in body.methods do
        Script.define proto k (.hidden (.object (← Script.makeMethod k b true)))
      for (k, b) in body.getters do
        Script.define proto k (.accessor (some (← Script.makeMethod k b false)) false)
      for (k, b) in body.statics do
        Script.define f k (.hidden (.object (← Script.makeMethod k b true)))
      return f) := by
  refine makeObject.bind fun proto => makeObject.bind fun f => define.bind fun _ =>
    (forIn (fun m _ => ?_) _ _).bind fun _ => (forIn (fun m _ => ?_) _ _).bind fun _ =>
      (forIn (fun m _ => ?_) _ _).bind fun _ => pure
  all_goals exact makeMethod.bind fun _ => define.bind fun _ => pure

include hc in
theorem makeClass {name : String} {body : ClassBody} : Keeps R (makeClass call name body) := by
  unfold Script.makeClass
  cases body.parent with
  | some p => exact (parentClass hc).bind fun _ => pure.bind fun _ => makeMembers _ _
  | none => exact pure.bind fun _ => makeMembers _ _

theorem hoist (d : Declaration) : Keeps R (hoist d) := by
  cases d with
  | function name body => exact makeFunction.bind fun _ => defineGlobal
  | binding kind name e =>
    cases kind with
    | var =>
      refine get.bind fun m => ?_
      split
      · exact defineGlobal
      · exact pure
    | _ => exact pure
  | _ => exact pure

include hc in
theorem declare (d : Declaration) : Keeps R (declare call d) := by
  cases d with
  | function name body => exact pure
  | binding kind name e =>
    cases kind with
    | var => exact (eval hc _ _ e).bind fun _ => defineGlobal
    | _ => exact (eval hc _ _ e).bind fun _ => declareLexical
  | «class» name body => exact (makeClass hc).bind fun _ => declareLexical
  | statement s => exact (exec hc _ s).bind fun _ => pure

include hc in
theorem runModule (module : Module) : Keeps R (runModule call module) :=
  (forM hoist module).bind fun _ => forM (declare hc) module

/-! ## Construction -/

theorem prototypeFor {f fallback : Ref} : Keeps R (prototypeFor f fallback) := by
  refine get.bind fun m => ?_
  split
  · exact pure
  · exact pure

theorem makeInstance {newTarget : Ref} : Keeps R (do
    let parent ← Script.prototypeFor newTarget Intrinsic.objectPrototype
    return Value.object (← Script.makeObject .ordinary (some parent) [])) :=
  prototypeFor.bind fun _ => makeObject.bind fun _ => pure

include hc in
theorem constructNative {n : Native} {self newTarget : Ref} {args : List Value} :
    Keeps R (constructNative call n self newTarget args) := by
  cases n with
  | objectClass =>
    show Keeps R (if self = newTarget then Script.toObject args else _)
    split
    · exact toObject
    · exact makeInstance
  | arrayClass => exact prototypeFor.bind fun _ => constructArray
  | errorClass kind => exact prototypeFor.bind fun _ => constructError hc
  | measure => exact measure hc
  | fetch => exact fetch
  | collectionClass name =>
    unfold Script.constructNative
    dsimp only
    split
    · exact makePlain.bind fun _ => pure
    · exact makePlain.bind fun _ => pure
    · exact get.bind fun _ => raise
  | _ => exact makeInstance

include hc in
theorem initFields {s : Scope} {r : Ref} {fields : List (String × Expr)} :
    Keeps R (initFields call s r fields) := by
  refine (forIn (fun field _ => ?_) fields _).bind fun _ => pure
  exact (eval hc _ _ _).bind fun _ => define.bind fun _ => pure

include hc in
theorem finishObject {c : ClassClosure} {args : List Value} {made : Value} :
    Keeps R (finishObject call c args made) := by
  cases made with
  | object r =>
    refine (initFields hc).bind fun _ => ?_
    split
    · exact pure
    · refine (execAll hc _ _).bind fun v => ?_
      split
      · exact pure
      · exact pure
      · split
        · exact raise
        · exact pure
  | _ => exact pure

include hc in
/-- Constructing by a function of a script: its body runs on a new object, and what it returns
stands in for that object if it is one itself. -/
theorem constructScripted {c : Closure} {newTarget : Ref} {args : List Value} : Keeps R (do
    let parent ← Script.prototypeFor newTarget Intrinsic.objectPrototype
    let r ← Script.makeObject .ordinary (some parent) []
    match ← c.run call (.object r) args with
    | .object other => return Value.object other
    | _ => return Value.object r) := by
  refine prototypeFor.bind fun _ => makeObject.bind fun r =>
    ((execAll hc _ _).bind fun _ => pure).bind fun v => ?_
  cases v with
  | object other => exact pure
  | _ => exact pure

end Keeps

/-- Whatever is constructed, however deep constructions nest. -/
theorem keeps_construct {R : Machine → Machine → Prop} [Effect R] (depth : Nat) (f newTarget : Ref)
    (args : List Value) : Keeps R (construct depth f newTarget args) := by
  induction depth generalizing f args with
  | zero => exact Keeps.throw
  | succ depth ih =>
    have hc : CallsKeep R (invoke depth) := calls_keep depth
    rw [construct]
    refine Keeps.objectAt.bind fun o => ?_
    split
    · split
      · exact Keeps.raise.bind fun _ => Keeps.constructScripted hc
      · exact Keeps.constructScripted hc
    · rename_i c _
      cases c.parent with
      | some p => exact (ih p _).bind fun _ => Keeps.finishObject hc
      | none =>
        exact Keeps.prototypeFor.bind fun _ => Keeps.makeObject.bind fun _ =>
          Keeps.pure.bind fun _ => Keeps.finishObject hc
    · split
      · exact Keeps.constructNative hc
      · exact Keeps.raise
    · exact Keeps.raise

end Script

/-! ## Requests to a unit -/

/-- All that happened to the channel in between is that records were offered. -/
def World.Offers (w w' : World) : Prop :=
  ∃ records : List Measurement, w'.channel = w.channel.offerAll records

theorem World.Offers.refl (w : World) : w.Offers w := ⟨[], rfl⟩

theorem World.Offers.trans {w w' w'' : World} (h : w.Offers w') (h' : w'.Offers w'') :
    w.Offers w'' := by
  obtain ⟨first, hfirst⟩ := h
  obtain ⟨later, hlater⟩ := h'
  exact ⟨first ++ later, by rw [hlater, hfirst, Channel.offerAll_append]⟩

namespace Extension

open Script

section
variable {R : Machine → Machine → Prop} {α β : Type}

theorem snd_settled (x : Run α) (m : Machine) : (settled x m).2 = (x.run m).2 := by
  unfold settled
  split <;> rename_i hx <;> rw [hx]

theorem keeps_settled {x : Run α} (hx : Keeps R x) (m : Machine) : R m (settled x m).2 := by
  rw [snd_settled]
  exact hx m

/-- However a loading step ends, the machine after it is related to the one before. -/
def Loading.Keeps (R : Machine → Machine → Prop) (x : Loading Machine α) : Prop := ∀ m, R m (x m).2

theorem Loading.Keeps.orFault {x : Asked Machine α} (hx : ∀ m, R m (x m).2)
    {fault : String → Fault} : Loading.Keeps R (x.orFault fault) := hx

variable [Effect R]

namespace Loading.Keeps

theorem pure {a : α} : Loading.Keeps R (Pure.pure a : Loading Machine α) :=
  fun _ => Effect.inside rfl rfl

theorem throw {e : Fault} : Loading.Keeps R (MonadExcept.throw e : Loading Machine α) :=
  fun _ => Effect.inside rfl rfl

theorem get : Loading.Keeps R (MonadState.get : Loading Machine Machine) :=
  fun _ => Effect.inside rfl rfl

theorem bind {x : Loading Machine α} {f : α → Loading Machine β} (hx : Loading.Keeps R x)
    (hf : ∀ a, Loading.Keeps R (f a)) : Loading.Keeps R (x >>= f) := by
  intro m
  have hfirst := hx m
  rw [Loading.bind_eq]
  generalize x m = ran at hfirst
  obtain ⟨_ | e | a, m'⟩ := ran
  · exact hfirst
  · exact hfirst
  · exact Effect.trans hfirst (hf a m')

end Loading.Keeps

theorem keeps_nameObject {name : String} : Keeps R (nameObject name) := by
  have hread : Keeps R (globalValue call name) := Keeps.globalValue (calls_keep maxDepth)
  refine Keeps.bind ?_ fun v => ?_
  · unfold nameValue
    split
    · exact .pure
    · refine Keeps.get.bind fun m => ?_
      split
      · refine hread.bind fun v => ?_
        split
        · exact .pure
        · exact hread
      · exact .pure
  · split
    · exact .pure
    · exact .pure

/-- Whatever the engine of syntax trees is asked for, it keeps every effect. -/
theorem keeps_run (text : List Char) (m : Machine) : R m (treeEngine.run text m).2 := by
  show R m (runText text m).2
  unfold runText
  cases Json.parse (.ofList text) with
  | ok tree => exact keeps_settled (keeps_guardedShown (.runModule (calls_keep maxDepth) _)) m
  | error e => exact Effect.inside rfl rfl

theorem keeps_resolve (name : String) (m : Machine) : R m (treeEngine.resolve name m).2 := by
  show R m (resolveName name m).2
  unfold resolveName
  split
  · exact Effect.inside rfl rfl
  · exact keeps_settled (keeps_guardedShown keeps_nameObject) m

theorem keeps_treeLookup {name : String} : Loading.Keeps R (treeEngine.lookup name) := by
  unfold Backend.lookup
  split
  · exact .orFault (keeps_resolve name)
  · exact .pure

theorem keeps_evaluate (spec : Spec) (text : List Char) :
    Loading.Keeps R (treeEngine.evaluate spec text) := by
  have hregister (m : Machine) : R m (treeEngine.register m).2 := Effect.inside rfl rfl
  refine .bind (.orFault hregister) fun _ =>
    .bind (.orFault (keeps_run text)) fun _ => .bind keeps_treeLookup fun found => ?_
  cases found with
  | none => exact .throw
  | some r =>
    refine .bind .get fun m => ?_
    split
    · exact .pure
    · exact .throw

theorem keeps_load (spec : Spec) (fs : FileSystem) (m : Machine) :
    R m (treeEngine.load spec fs m).2 := by
  unfold Backend.load
  split
  · exact Effect.inside rfl rfl
  · split
    · exact Effect.inside rfl rfl
    · exact keeps_evaluate spec _ m

theorem snd_answered (r : Outcome α × Machine) : (ScriptUnit.answered r).2 = r.2 := by
  obtain ⟨_ | answer, m⟩ := r <;> rfl

theorem keeps_lookup {name : String} : Keeps R (ScriptUnit.lookup name) := by
  intro m
  show R m (ScriptUnit.answered (treeEngine.lookup name m)).2
  rw [snd_answered]
  exact keeps_treeLookup m

namespace ScriptUnit

theorem keeps_initRun (u : ScriptUnit) (options : Json) : Keeps R (u.initRun options) := by
  refine (Keeps.ofJson options).bind fun argument => ?_
  split
  · refine (keeps_guarded (keeps_construct maxDepth _ _ _)).bind fun result => ?_
    split
    · exact .pure
    · exact .pure
    · exact .pure
  · refine keeps_lookup.bind fun found => ?_
    split
    · exact .pure
    · exact .pure
    · refine Keeps.objectAt.bind fun o => ?_
      split
      · exact .pure
      · refine (keeps_guarded ((calls_keep maxDepth).keeps _ _ _)).bind fun result => ?_
        split
        · exact .pure
        · exact .pure

theorem keeps_hookRun (u : ScriptUnit) (name : String) (args : List Value) :
    Keeps R (u.hookRun name args) := by
  unfold hookRun
  split
  · exact .pure
  · refine keeps_methodOf.bind fun found => ?_
    split
    · exact .pure
    · exact .pure
    · exact (keeps_guarded ((calls_keep maxDepth).keeps _ _ _)).bind fun _ => .pure

end ScriptUnit
end

namespace ScriptUnit

theorem offers_runIn {α : Type} {x : Run (Except Fault α)} (hx : Keeps Nested x) (memory : Memory)
    (w : World) : w.Offers (runIn memory w x).2.2 := by
  obtain ⟨records, hchannel, -⟩ := (keeps_settled hx { memory with world := w }).emits
  exact ⟨records, hchannel⟩

theorem offers_load (spec : Spec) (limit : Span) (fs : FileSystem) (w : World) :
    w.Offers (load spec limit fs w).2 := by
  obtain ⟨records, hchannel, -⟩ :=
    (keeps_load (R := Nested) spec fs { Memory.start limit with world := w }).emits
  exact ⟨records, hchannel⟩

theorem offers_init (u : ScriptUnit) (options : Json) (w : World) :
    w.Offers (u.init options w).2.2 := by
  have hrun := offers_runIn (keeps_initRun u options) u.memory w
  unfold init
  generalize runIn u.memory w (u.initRun options) = ended at hrun ⊢
  obtain ⟨outcome, memory, w'⟩ := ended
  rcases outcome with _ | e | r <;> exact hrun

theorem offers_hook (u : ScriptUnit) (name : String) (args : List Value) (w : World) :
    w.Offers (u.hook name args w).2.2 := offers_runIn (keeps_hookRun u name args) u.memory w

end ScriptUnit

end Extension

end Volley
