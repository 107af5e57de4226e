import Volley.Script.Eval

/-!
# What a script does to its machine

Nothing a script does gets past a few primitive steps: it changes its own memory, sends a request,
or runs something in a measured scope. A relation between machines that holds of each of these is an
`Effect`, and a computation `Keeps` it if the machine after it is related to the one before, however
the computation ends.

* `run_bind`, `run_tryCatch`, `run_runScope`: what a computation comes to, by its parts.
* `Keeps.bind`, `Keeps.tryCatch`: computations that keep an effect make up computations that do.
* `keeps_invoke`: a call of any function keeps every effect.
-/
namespace Volley.Script

/-- The machine in a scope that was just opened and counted. -/
def Machine.inScope (m : Machine) (marker : String) : Machine :=
  { m with steps := m.steps + 1, world := (m.world.openShot marker).2 }

/-- A relation between the machine before and the machine after that all a script does is in. -/
class Effect (R : Machine → Machine → Prop) : Prop where
  trans {a b c : Machine} (hab : R a b) (hbc : R b c) : R a c
  /-- What changes neither the world nor the count of scopes. -/
  inside {m m' : Machine} (hw : m'.world = m.world) (hs : m'.steps = m.steps) : R m m'
  exchange (m : Machine) (method address : String) (headers : List (String × String))
    (body : Option (List UInt8)) :
    R m { m with world := (m.world.exchange m.limit method address headers body).2 }
  /-- A scope from its opening to its end, if what happens in it is in the relation. -/
  scope {depth : Nat} {marker : String} {body : Ref} {m : Machine}
    (hbody : R (m.inScope marker) ((runBody (invoke depth) (m.world.openShot marker).1 body).run
      (m.inScope marker)).2) :
    R m ((runScope (invoke depth) marker body).run m).2

/-- However the computation ends, the machine after it is related to the one before. -/
def Keeps (R : Machine → Machine → Prop) {α : Type} (x : Run α) : Prop := ∀ m, R m (x.run m).2

/-- A caller whose calls all keep the effect. -/
structure CallsKeep (R : Machine → Machine → Prop) (call : Caller) : Prop where
  interprets : ∃ depth, call = invoke depth
  keeps (f : Ref) (self : Value) (args : List Value) : Keeps R (call f self args)

/-! ## Computations made of computations -/

theorem run_bind {α β : Type} (x : Run α) (f : α → Run β) (m : Machine) :
    (x >>= f).run m = match x.run m with
      | (.ok a, m') => (f a).run m'
      | (.error i, m') => (.error i, m') := by
  show ExceptT.bindCont f (x.run m).1 (x.run m).2 = _
  cases x.run m with
  | mk result m' => cases result <;> rfl

theorem run_tryCatch {α : Type} (x : Run α) (h : Interrupt → Run α) (m : Machine) :
    (tryCatch x h).run m = match x.run m with
      | (.ok a, m') => (.ok a, m')
      | (.error i, m') => (h i).run m' := by
  simp only [tryCatch, tryCatchThe, MonadExceptOf.tryCatch, ExceptT.tryCatch, ExceptT.run,
    ExceptT.mk, Bind.bind, StateT.bind]
  cases x m with
  | mk result m' => cases result <;> rfl

/-- The computations that one that comes to a value is made of. -/
theorem ok_of_run_bind {α β : Type} {x : Run α} {f : α → Run β} {m m' : Machine} {b : β}
    (h : (x >>= f).run m = (.ok b, m')) :
    ∃ a between, x.run m = (.ok a, between) ∧ (f a).run between = (.ok b, m') := by
  rw [run_bind] at h
  split at h
  · rename_i a between hx
    exact ⟨a, between, hx, h⟩
  · cases h

/-- What interrupts a computation interrupts one of its parts. -/
theorem error_of_run_bind {α β : Type} {x : Run α} {f : α → Run β} {m m' : Machine} {i : Interrupt}
    (h : (x >>= f).run m = (.error i, m')) : x.run m = (.error i, m') ∨
      ∃ a between, x.run m = (.ok a, between) ∧ (f a).run between = (.error i, m') := by
  rw [run_bind] at h
  split at h
  · rename_i a between hx
    exact .inr ⟨a, between, hx, h⟩
  · rename_i j between hx
    cases h
    exact .inl hx

/-- What is guarded comes to a value, or to what its handler makes of its interrupt. -/
theorem run_tryCatch_cases {α : Type} {x : Run α} {handler : Interrupt → Run α} {m m' : Machine}
    {result : Except Interrupt α} (h : (tryCatch x handler).run m = (result, m')) :
    (∃ a, result = .ok a ∧ x.run m = (.ok a, m')) ∨
      ∃ i between, x.run m = (.error i, between) ∧ (handler i).run between = (result, m') := by
  rw [run_tryCatch] at h
  split at h
  · rename_i a between hx
    cases h
    exact .inl ⟨a, rfl, hx⟩
  · rename_i i between hx
    exact .inr ⟨i, between, hx, h⟩

/-- A scope comes to what its body comes to, and is closed as the body leaves it. -/
theorem run_runScope (call : Caller) (marker : String) (body : Ref) (m : Machine) :
    let shot := (m.world.openShot marker).1
    (runScope call marker body).run m =
      match (runBody call shot body).run (m.inScope marker) with
      | (.ok (left, result), m') =>
        (result, { m' with world := m'.world.closeShot left .completed })
      | (.error i, m') => (.error i, { m' with world := m'.world.closeShot shot .panicked }) := by
  intro shot
  have hopen : (openScope marker).run m = (.ok shot, m.inScope marker) := rfl
  rw [runScope, run_bind, hopen]
  dsimp only
  rw [run_bind, run_tryCatch]
  cases (runBody call shot body).run (m.inScope marker) with
  | mk ended m' =>
    rcases ended with i | ⟨left, result⟩
    · rfl
    · cases result <;> rfl

section
variable {R : Machine → Machine → Prop} [Effect R] {α β : Type}

theorem Effect.refl (m : Machine) : R m m := Effect.inside rfl rfl

namespace Keeps

theorem pure {a : α} : Keeps R (Pure.pure a : Run α) := fun m => Effect.refl m

theorem throw {i : Interrupt} : Keeps R (throw i : Run α) := fun m => Effect.refl m

theorem get : Keeps R (MonadState.get : Run Machine) := fun m => Effect.refl m

/-- A step in the memory of the script. -/
theorem modifyGet {f : Machine → α × Machine}
    (h : ∀ m, (f m).2.world = m.world ∧ (f m).2.steps = m.steps) :
    Keeps R (modifyGet f : Run α) := fun m => Effect.inside (h m).1 (h m).2

theorem bind {x : Run α} {f : α → Run β} (hx : Keeps R x) (hf : ∀ a, Keeps R (f a)) :
    Keeps R (x >>= f) := by
  intro m
  have hxm := hx m
  rw [run_bind]
  cases hr : x.run m with
  | mk result m' =>
    rw [hr] at hxm
    cases result with
    | ok a => exact Effect.trans hxm (hf a m')
    | error i => exact hxm

theorem tryCatch {x : Run α} {h : Interrupt → Run α} (hx : Keeps R x) (hh : ∀ i, Keeps R (h i)) :
    Keeps R (tryCatch x h) := by
  intro m
  have hxm := hx m
  rw [run_tryCatch]
  cases hr : x.run m with
  | mk result m' =>
    rw [hr] at hxm
    cases result with
    | ok a => exact hxm
    | error i => exact Effect.trans hxm (hh i m')

theorem mapM {f : α → Run β} (hf : ∀ a, Keeps R (f a)) (l : List α) : Keeps R (l.mapM f) := by
  induction l with
  | nil => exact pure
  | cons a l ih =>
    rw [List.mapM_cons]
    exact (hf a).bind fun _ => ih.bind fun _ => pure

theorem filterMapM {f : α → Run (Option β)} (hf : ∀ a, Keeps R (f a)) (l : List α) :
    Keeps R (l.filterMapM f) := by
  induction l with
  | nil => exact pure
  | cons a l ih =>
    rw [List.filterMapM_cons]
    refine (hf a).bind fun b => ?_
    cases b with
    | none => exact ih
    | some b => exact ih.bind fun _ => pure

theorem forM {f : α → Run PUnit} (hf : ∀ a, Keeps R (f a)) (l : List α) : Keeps R (l.forM f) := by
  induction l with
  | nil => exact pure
  | cons a l ih => exact (hf a).bind fun _ => ih

theorem forIn {f : α → β → Run (ForInStep β)} (hf : ∀ a b, Keeps R (f a b)) (l : List α) (b : β) :
    Keeps R (forIn l b f) := by
  induction l generalizing b with
  | nil => exact pure
  | cons a l ih =>
    rw [List.forIn_cons]
    refine (hf a b).bind fun s => ?_
    cases s with
    | done b => exact pure
    | yield b => exact ih b

/-! ## Objects -/

section
variable {r parent : Ref} {key name message : String} {c : Closure}

theorem objectAt : Keeps R (objectAt r) := get.bind fun _ => pure

theorem allocate {o : Object} : Keeps R (allocate o) := modifyGet fun _ => ⟨rfl, rfl⟩

theorem define {p : Property} : Keeps R (define r key p) := modifyGet fun _ => ⟨rfl, rfl⟩

theorem makeError {kind : ErrorKind} {message : Option String} :
    Keeps R (makeError kind parent message) := allocate

theorem makePlain {properties : List (String × Property)} : Keeps R (makePlain properties) :=
  allocate

theorem makeArray {elements : List Value} : Keeps R (makeArray parent elements) := allocate

theorem raise {kind : ErrorKind} : Keeps R (raise kind message : Run α) :=
  makeError.bind fun _ => throw

theorem makeFunction : Keeps R (makeFunction name c) := by
  refine allocate.bind fun f => ?_
  split
  · exact makePlain.bind fun p => define.bind fun _ => pure
  · exact pure

end

/-! ## Properties and conversions -/

section Calls
variable {call : Caller} (hc : CallsKeep R call) {r : Ref} {v w self : Value} {key : String}
include hc

theorem readProperty {p : Option Property} : Keeps R (readProperty call self p) := by
  unfold Script.readProperty
  split
  · exact pure
  · exact hc.keeps _ _ _
  · exact pure
  · exact pure

theorem getProperty : Keeps R (getProperty call v key) := by
  have hfind : ∀ r, Keeps R (do Script.readProperty call v ((← MonadState.get).find? r key)) :=
    fun r => get.bind fun m => readProperty hc
  unfold Script.getProperty
  split
  · exact raise
  · exact raise
  · exact hfind _
  · split
    · exact pure
    · split
      · exact pure
      · exact hfind _
  · exact hfind _

theorem callValue {f : Value} {args : List Value} : Keeps R (callValue call f self args) := by
  unfold Script.callValue
  split
  · refine objectAt.bind fun o => ?_
    split
    · exact hc.keeps _ _ _
    · exact raise
  · exact raise

/-- One conversion method, if there is a function by that name. -/
theorem convert : Keeps R (do
    let f ← Script.getProperty call (.object r) key
    if !(← MonadState.get).isCallable f then return none
    match ← Script.callValue call f (.object r) [] with
    | .object _ => return none
    | p => return some p) := by
  refine (getProperty hc).bind fun f => get.bind fun m => ?_
  split
  · exact pure
  · refine (callValue hc).bind fun p => ?_
    split
    · exact pure
    · exact pure

theorem toPrimitive {textFirst : Bool} : Keeps R (toPrimitive call textFirst v) := by
  unfold Script.toPrimitive
  split
  · refine (convert hc).bind fun p => ?_
    split
    · exact pure
    · refine (convert hc).bind fun p => ?_
      split
      · exact pure
      · exact raise
  · exact pure

omit hc in
theorem primitiveText : Keeps R (primitiveText v) := by
  cases v with
  | symbol n => exact raise
  | _ => exact pure

omit hc in
theorem primitiveNumber : Keeps R (primitiveNumber v) := by
  cases v with
  | symbol n => exact raise
  | bigint n => exact raise
  | _ => exact pure

theorem toText : Keeps R (toText call v) := (toPrimitive hc).bind fun _ => primitiveText

theorem addValues : Keeps R (addValues call v w) := by
  refine (toPrimitive hc).bind fun p => (toPrimitive hc).bind fun q => ?_
  split
  · exact primitiveText.bind fun _ => pure
  · exact primitiveText.bind fun _ => pure
  · exact pure
  · exact primitiveNumber.bind fun _ => primitiveNumber.bind fun _ => pure

theorem joinElements {length : Nat} {separator : String} :
    Keeps R (joinElements call r length separator) := by
  refine (mapM (fun i => (getProperty hc).bind fun v => ?_) _).bind fun _ => pure
  split
  · exact pure
  · exact pure
  · exact toText hc

omit hc in
theorem setLength : Keeps R (setLength r v) := by
  refine primitiveNumber.bind fun x => ?_
  dsimp only
  split
  · exact modifyGet fun _ => ⟨rfl, rfl⟩
  · exact raise

omit hc in
theorem setProperty {strict : Bool} : Keeps R (setProperty strict self key v) := by
  unfold Script.setProperty
  split
  · exact raise
  · exact raise
  · refine get.bind fun m => ?_
    split
    · split
      · exact raise
      · exact pure
    · split
      · exact setLength
      · exact define
  · split
    · exact raise
    · exact pure

theorem offered : Keeps R (offered call key v) := by
  unfold Script.offered
  split
  · refine (getProperty hc).bind fun f => get.bind fun m => ?_
    split
    · exact callValue hc
    · exact pure
  · exact pure

theorem stringify (limit : Nat) (key : String) (v : Value) :
    Keeps R (stringify call limit key v) := by
  induction limit generalizing key v with
  | zero =>
    unfold Script.stringify
    refine (offered hc).bind fun v => ?_
    cases v with
    | bigint n => exact raise
    | object r => exact raise
    | _ => exact pure
  | succ limit ih =>
    unfold Script.stringify
    refine (offered hc).bind fun v => ?_
    cases v with
    | bigint n => exact raise
    | object r =>
      refine get.bind fun m => ?_
      dsimp only
      split
      · exact pure
      · split
        · exact (mapM (fun i => (getProperty hc).bind fun _ => (ih _ _).bind fun _ => pure) _).bind
            fun _ => pure
        · exact (filterMapM (fun k => (getProperty hc).bind fun _ => (ih _ _).bind fun _ => pure)
            _).bind fun _ => pure
    | _ => exact pure

/-! ## Thrown values -/

omit hc in
theorem attempt {α : Type} {x : Run α} (hx : Keeps R x) : Keeps R (attempt x) := by
  refine (hx.bind fun _ => pure).tryCatch fun i => ?_
  split
  · exact throw
  · exact pure

/-- The cause of an error is looked at if its message is a text. -/
theorem messageText : Keeps R (match v with
    | .string s => do
      let _ ← Script.readProperty call (.object r) ((← MonadState.get).find? r "cause")
      return some s
    | _ => return none) := by
  cases v with
  | string s => exact get.bind fun _ => (readProperty hc).bind fun _ => pure
  | _ => exact pure

theorem errorMessage : Keeps R (errorMessage call r) := by
  unfold Script.errorMessage
  refine get.bind fun m => ?_
  split
  · exact pure.bind fun _ => messageText hc
  · exact (readProperty hc).bind fun _ => messageText hc

theorem describeThrown : Keeps R (describeThrown call v) := by
  refine get.bind fun m => ?_
  split
  · split
    · refine (attempt (errorMessage hc)).bind fun text => ?_
      split
      · exact pure
      · exact get.bind fun _ => pure
    · exact pure
  · exact pure

theorem describe {i : Interrupt} : Keeps R (describe call i) := by
  cases i with
  | thrown v => exact describeThrown hc
  | tooDeep => exact pure
  | crash => exact throw

/-! ## Host functions -/

theorem thrownCode : Keeps R (thrownCode call v) := by
  unfold Script.thrownCode
  split
  · refine (attempt (getProperty hc)).bind fun code => ?_
    split
    · exact pure
    · exact pure
  · exact pure

theorem shotThrew {shot : Shot} : Keeps R (Shot.threw call shot v) := by
  refine (thrownCode hc).bind fun code => (describe hc).bind fun _ => ?_
  split
  · exact pure
  · exact pure

theorem runBody {shot : Shot} {body : Ref} : Keeps R (runBody call shot body) := by
  refine .tryCatch ((hc.keeps _ _ _).bind fun v => get.bind fun m => ?_) fun i => ?_
  · split
    · exact pure
    · exact throw
  · split
    · exact (shotThrew hc).bind fun _ => pure
    · exact pure
    · exact throw

theorem runScope {marker : String} {body : Ref} : Keeps R (runScope call marker body) := by
  intro m
  have hbody : R (m.inScope marker) ((Script.runBody call (m.world.openShot marker).1 body).run
      (m.inScope marker)).2 := runBody hc _
  obtain ⟨depth, rfl⟩ := hc.interprets
  exact Effect.scope hbody

theorem measure {args : List Value} : Keeps R (measure call args) := by
  unfold Script.measure
  split
  · split
    · refine objectAt.bind fun o => ?_
      split
      · exact runScope hc
      · exact raise
    · exact raise
  · exact raise

end Calls

mutual

theorem ofJson (j : Json) : Keeps R (Script.ofJson j) := by
  cases j with
  | array elements =>
    rw [Script.ofJson]
    exact (ofElements elements).bind fun _ => makeArray.bind fun _ => pure
  | object members =>
    rw [Script.ofJson]
    exact (ofMembers members).bind fun _ => makePlain.bind fun _ => pure
  | _ => exact pure

theorem ofElements (js : List Json) : Keeps R (Script.ofElements js) := by
  cases js with
  | nil => exact pure
  | cons j js =>
    rw [Script.ofElements]
    exact (ofJson j).bind fun _ => (ofElements js).bind fun _ => pure

theorem ofMembers (js : List (String × Json)) : Keeps R (Script.ofMembers js) := by
  cases js with
  | nil => exact pure
  | cons member js =>
    obtain ⟨k, j⟩ := member
    rw [Script.ofMembers]
    exact (ofJson j).bind fun _ => (ofMembers js).bind fun _ => pure

end

theorem exchange {address : String} {w : Wanted} : Keeps R (exchange address w) :=
  fun m => Effect.exchange m w.method address w.headers (w.body.map Text.Utf8.bytesOf)

theorem throwFailure {e : Http.Failure} : Keeps R (throwFailure e) :=
  makeError.bind fun _ => define.bind fun _ => throw

theorem initJson {v : Value} : Keeps R (initJson v) := by
  unfold Script.initJson
  split
  · exact pure
  · exact pure
  · refine get.bind fun m => ?_
    split
    · exact pure
    · exact raise
    · exact throw

theorem fetch {args : List Value} : Keeps R (fetch args) := by
  unfold Script.fetch
  split
  · refine initJson.bind fun init => ?_
    dsimp only
    split
    · exact raise
    · refine exchange.bind fun answer => ?_
      split
      · exact ofJson _
      · exact throwFailure
      · exact throwFailure
  · exact raise

end Keeps
end

end Volley.Script
