import Volley.Proofs.Script.Effects

/-!
# What a call of a function does to its machine

By recursion on the syntax of a body, and on the number of calls that may nest: whatever function is
called on whatever value with whatever arguments, the call keeps every effect (`calls_keep`).
-/
namespace Volley.Script

namespace Keeps

variable {R : Machine → Machine → Prop} [Effect R] {call : Caller} (hc : CallsKeep R call)

/-! ## Built-in functions -/

theorem pushElements {r : Ref} {args : List Value} : Keeps R (pushElements r args) := by
  refine get.bind fun m => ?_
  dsimp only
  refine (forIn (fun p _ => ?_) _ _).bind fun _ => define.bind fun _ => pure
  obtain ⟨v, i⟩ := p
  exact define.bind fun _ => pure

theorem toObject {args : List Value} : Keeps R (toObject args) := by
  unfold Script.toObject
  split
  · exact pure
  · exact makePlain.bind fun _ => pure

theorem constructArray {parent : Ref} {args : List Value} :
    Keeps R (constructArray parent args) := by
  unfold Script.constructArray
  split
  · dsimp only
    split
    · exact makeArray.bind fun _ => define.bind fun _ => pure
    · exact raise
  · exact makeArray.bind fun _ => pure

include hc in
theorem constructError {kind : ErrorKind} {parent : Ref} {args : List Value} :
    Keeps R (constructError call kind parent args) := by
  unfold Script.constructError
  split
  · exact makeError.bind fun _ => pure
  · exact (toText hc).bind fun _ => makeError.bind fun _ => pure

include hc in
theorem textUnderName {self : Value} {name : String} : Keeps R (do
    let message ← match ← Script.getProperty call self "message" with
      | .undefined => Pure.pure ""
      | v => Script.toText call v
    return if name.isEmpty then message
      else if message.isEmpty then name else name ++ ": " ++ message) := by
  refine (getProperty hc).bind fun v => ?_
  cases v with
  | undefined => exact pure
  | _ => exact (toText hc).bind fun _ => pure

include hc in
theorem errorObjectText {self : Value} : Keeps R (errorObjectText call self) := by
  refine (getProperty hc).bind fun v => ?_
  split
  · exact pure.bind fun _ => textUnderName hc
  · exact (toText hc).bind fun _ => textUnderName hc

include hc in
theorem joinedBy {self : Value} {separator : String} : Keeps R (match self with
    | .object r => do
      return Value.string (← Script.joinElements call r (lengthOf (← MonadState.get) r) separator)
    | _ => return .string "") := by
  cases self with
  | object r => exact get.bind fun _ => (joinElements hc).bind fun _ => pure
  | _ => exact pure

include hc in
theorem arrayJoin {self : Value} {args : List Value} :
    Keeps R (Script.callNative call .arrayJoin self args) := by
  unfold Script.callNative
  dsimp only
  split
  · exact pure.bind fun _ => joinedBy hc
  · exact (toText hc).bind fun _ => joinedBy hc

include hc in
theorem callNative {n : Native} {self : Value} {args : List Value} :
    Keeps R (callNative call n self args) := by
  cases n with
  | objectClass => exact toObject
  | arrayClass => exact constructArray
  | errorClass kind => exact constructError hc
  | measure => exact measure hc
  | fetch => exact fetch
  | objectToString => exact get.bind fun _ => pure
  | objectValueOf =>
    cases self with
    | undefined => exact raise
    | null => exact raise
    | _ => exact pure
  | hasOwnProperty =>
    refine (toText hc).bind fun key => ?_
    cases self with
    | undefined => exact raise
    | null => exact raise
    | object r => exact objectAt.bind fun _ => pure
    | _ => exact pure
  | functionToString =>
    cases self with
    | object r =>
      refine objectAt.bind fun o => ?_
      split
      · exact get.bind fun _ => pure
      · exact raise
    | _ => exact raise
  | arrayToString =>
    have hjoin : ∀ v : Value, Keeps R (do
        let f ← Script.getProperty call v "join"
        if (← MonadState.get).isCallable f then Script.callValue call f v []
        else return .string (objectTag (← MonadState.get) v)) := by
      intro v
      refine (getProperty hc).bind fun f => get.bind fun m => ?_
      split
      · exact callValue hc
      · exact get.bind fun _ => pure
    cases self with
    | undefined => exact raise
    | null => exact raise
    | _ => exact hjoin _
  | arrayJoin => exact arrayJoin hc
  | arrayPush =>
    cases self with
    | undefined => exact raise
    | null => exact raise
    | object r => exact pushElements
    | _ => exact pure
  | errorToString =>
    cases self with
    | object r => exact (errorObjectText hc).bind fun _ => pure
    | _ => exact raise
  | collectionClass name => exact raise
  | plainClass name => exact (toText hc).bind fun _ => pure
  | idle name => exact pure

/-! ## Expressions and statements -/

include hc in
theorem globalValue {name : String} : Keeps R (globalValue call name) := by
  refine get.bind fun m => ?_
  split
  · exact pure
  · split
    · exact readProperty hc
    · exact raise

theorem bound {name : String} {v : Option Value} : Keeps R (bound name v) := by
  cases v with
  | some v => exact pure
  | none => exact raise

theorem makeLiteral {s : Scope} {name : String} {body : List Stmt} {self : SelfRule}
    {hasParameters isConstructor : Bool} :
    Keeps R (makeLiteral s name body self hasParameters isConstructor) :=
  makeFunction.bind fun _ => pure

theorem assignAll {r : Ref} {members : List (String × Value)} : Keeps R (assignAll r members) :=
  forM (fun _ => define) members

include hc in
theorem successor {v : Value} : Keeps R (successor call v) := addValues hc

theorem parentOf {v : Value} : Keeps R (parentOf v) := by
  cases v with
  | null => exact pure
  | object r => exact pure
  | _ => exact get.bind fun _ => raise

mutual

theorem eval (hc : CallsKeep R call) (s : Scope) (name : String) (e : Expr) :
    Keeps R (Script.eval call s name e) := by
  cases e with
  | a => exact bound
  | b => exact bound
  | caught => exact bound
  | literal j => exact ofJson j
  | get e key => exact (eval hc s "" e).bind fun _ => getProperty hc
  | kindOf e =>
    rw [Script.eval]
    split
    · exact pure
    · exact (eval hc s "" e).bind fun _ => Keeps.get.bind fun _ => pure
  | state key => exact getProperty hc
  | method key args =>
    exact (getProperty hc).bind fun _ => (evalList hc s args).bind fun _ => callValue hc
  | object members =>
    exact (evalMembers hc s members).bind fun _ => makePlain.bind fun _ => assignAll.bind fun _ =>
      pure
  | create parent members =>
    exact (eval hc s "" parent).bind fun _ => parentOf.bind fun _ => allocate.bind fun _ =>
      (evalMembers hc s members).bind fun _ => assignAll.bind fun _ => pure
  | array elements => exact (evalList hc s elements).bind fun _ => makeArray.bind fun _ => pure
  | concat parts => exact evalSum hc s _ parts
  | add terms =>
    cases terms with
    | nil => exact pure
    | cons e terms => exact (eval hc s "" e).bind fun _ => evalSum hc s _ terms
  | stringify e =>
    rw [Script.eval]
    refine (eval hc s "" e).bind fun v => Keeps.get.bind fun m =>
      (stringify hc _ _ _).bind fun text => ?_
    split
    · exact pure
    · exact pure
  | function body => exact makeLiteral
  | arrow body => exact makeLiteral
  | thunk body => exact makeLiteral
  | getter key body => exact makeFunction.bind fun _ => makePlain.bind fun _ => pure
  | error kind message extra =>
    rw [Script.eval]
    refine (eval hc s "" message).bind fun text => (constructError hc).bind fun e =>
      (evalMembers hc s extra).bind fun vs => ?_
    cases e with
    | object r => exact assignAll.bind fun _ => pure
    | _ => exact pure
  | measure args =>
    exact (globalValue hc).bind fun _ => (evalList hc s args).bind fun _ => callValue hc
  | fetch args =>
    exact (globalValue hc).bind fun _ => (evalList hc s args).bind fun _ => callValue hc
  | symbol => exact modifyGet fun _ => ⟨rfl, rfl⟩
  | _ => exact pure

theorem evalList (hc : CallsKeep R call) (s : Scope) (es : List Expr) :
    Keeps R (Script.evalList call s es) := by
  cases es with
  | nil => exact pure
  | cons e es => exact (eval hc s "" e).bind fun _ => (evalList hc s es).bind fun _ => pure

theorem evalSum (hc : CallsKeep R call) (s : Scope) (sum : Value) (es : List Expr) :
    Keeps R (Script.evalSum call s sum es) := by
  cases es with
  | nil => exact pure
  | cons e es =>
    exact (eval hc s "" e).bind fun _ => (addValues hc).bind fun sum => evalSum hc s sum es

theorem evalMembers (hc : CallsKeep R call) (s : Scope) (members : List (String × Expr)) :
    Keeps R (Script.evalMembers call s members) := by
  cases members with
  | nil => exact pure
  | cons member members =>
    obtain ⟨k, e⟩ := member
    exact (eval hc s k e).bind fun _ => (evalMembers hc s members).bind fun _ => pure

end

mutual

theorem exec (hc : CallsKeep R call) (s : Scope) (st : Stmt) :
    Keeps R (Script.exec call s st) := by
  cases st with
  | «return» e => exact (eval hc s "" e).bind fun _ => pure
  | throw e => exact (eval hc s "" e).bind fun _ => Keeps.throw
  | expr e => exact (eval hc s "" e).bind fun _ => pure
  | set key e => exact (eval hc s "" e).bind fun _ => setProperty.bind fun _ => pure
  | increment key =>
    exact (getProperty hc).bind fun _ => (successor hc).bind fun _ => setProperty.bind fun _ => pure
  | selfSet key e => exact (eval hc s "" e).bind fun _ => setProperty.bind fun _ => pure
  | selfIncrement key =>
    exact (getProperty hc).bind fun _ => (successor hc).bind fun _ => setProperty.bind fun _ => pure
  | whenEqual left right body =>
    rw [Script.exec]
    refine (eval hc s "" left).bind fun v => (eval hc s "" right).bind fun w => ?_
    split
    · exact execAll hc s body
    · exact pure
  | «try» body handler =>
    rw [Script.exec]
    refine (execAll hc s body).tryCatch fun i => ?_
    split
    · exact execAll hc _ handler
    · exact Keeps.throw

theorem execAll (hc : CallsKeep R call) (s : Scope) (sts : List Stmt) :
    Keeps R (Script.execAll call s sts) := by
  cases sts with
  | nil => exact pure
  | cons st sts =>
    rw [Script.execAll]
    refine (exec hc s st).bind fun v => ?_
    split
    · exact pure
    · exact execAll hc s sts

end

end Keeps

/-! ## Calls -/

/-- Whatever is called, however deep the calls nest. -/
theorem calls_keep {R : Machine → Machine → Prop} [Effect R] (depth : Nat) :
    CallsKeep R (invoke depth) := by
  induction depth with
  | zero => exact ⟨⟨0, rfl⟩, fun _ _ _ => Keeps.throw⟩
  | succ depth ih =>
    refine ⟨⟨depth + 1, rfl⟩, fun f self args => ?_⟩
    rw [invoke]
    refine Keeps.objectAt.bind fun o => ?_
    split
    · exact (Keeps.execAll ih _ _).bind fun _ => Keeps.pure
    · exact Keeps.callNative ih
    · exact Keeps.raise
    · exact Keeps.raise

end Volley.Script
