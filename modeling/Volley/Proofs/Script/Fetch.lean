import Mathlib.Data.List.Basic
import Volley.Proofs.Measurement.Overrides
import Volley.Proofs.Numeral.Double
import Volley.Proofs.Script.Nesting

/-!
# A measured request

`measure(marker, () => fetch(base + payload))`: one request in a scope of its own. As long as the
two names stand for the host functions nothing else runs in the scope, so what it offers follows
from the result of the exchange alone: the figures of the answer's object, or the code that the
thrown error carries.

* `Machine.Intact`: the host functions are reached, and errors have the parents they started with.
* `run_measuredFetch`, `outcome_fetching`: the scope and what its body comes to.
* `run_answer`, `overrides_answer`: the object of an answer and the figures that it assigns.
* `run_throwFailure`, `run_threw_failure`: the error of a failure and the code that it carries.
* `left_fetching`: the shot that is closed, by the result of the exchange.
-/
namespace Volley.Script

/-! ## Machines on which the host functions are reached -/

/-- The host functions. -/
def hosts : List Native := [.measure, .fetch]

theorem measure_mem_hosts : .measure ∈ hosts := List.mem_cons_self ..

theorem fetch_mem_hosts : .fetch ∈ hosts := List.mem_cons_of_mem _ (List.mem_cons_self ..)

namespace Machine

/-- The names of the host functions stand for them, and the objects that are there from the start
are as they were, apart from the two that scripts write to. -/
structure Intact (m : Machine) : Prop where
  free : ∀ n ∈ hosts, m.lexical.lookup n.name = none
  bound : ∀ n ∈ hosts, (m.object Intrinsic.globalObject).own? n.name =
    some (Intrinsic.hiddenMethod n).2
  room : Intrinsic.heap.size ≤ m.heap.size
  kept : ∀ r < Intrinsic.heap.size, r ≠ Intrinsic.globalObject → r ≠ Intrinsic.state →
    m.object r = Intrinsic.heap.getD r default

variable {m m' : Machine} {r : Ref} {key : String} {n : Native} {o : Object}

/-- The machine with one more object. -/
def withObject (m : Machine) (o : Object) : Machine := { m with heap := m.heap.push o }

theorem object_withObject_of_lt (h : r < m.heap.size) : (m.withObject o).object r = m.object r := by
  have hlt : r < m.heap.size + 1 := Nat.lt_succ_of_lt h
  simp [withObject, object, Array.getD, h, hlt, Array.getElem_push]

theorem object_withObject_self (m : Machine) (o : Object) :
    (m.withObject o).object m.heap.size = o := by
  simp [withObject, object, Array.getD]

theorem size_withObject (m : Machine) (o : Object) :
    (m.withObject o).heap.size = m.heap.size + 1 := Array.size_push ..

theorem Intact.of_kept (hm : m.Intact) (hlexical : m'.lexical = m.lexical)
    (hroom : m.heap.size ≤ m'.heap.size)
    (hobject : ∀ r < m.heap.size, m'.object r = m.object r) : m'.Intact where
  free := by
    rw [hlexical]
    exact hm.free
  bound := by
    have hglobal : Intrinsic.globalObject < m.heap.size :=
      Nat.lt_of_lt_of_le (by decide) hm.room
    rw [hobject _ hglobal]
    exact hm.bound
  room := Nat.le_trans hm.room hroom
  kept r hr hglobal hstate := by
    rw [hobject r (Nat.lt_of_lt_of_le hr hm.room)]
    exact hm.kept r hr hglobal hstate

theorem Intact.withObject (hm : m.Intact) (o : Object) : (m.withObject o).Intact := by
  refine hm.of_kept rfl ?_ fun r hr => object_withObject_of_lt hr
  rw [size_withObject]
  exact Nat.le_succ _

/-- Only the heap and the names matter. -/
theorem Intact.of_memory (hm : m.Intact) (hlexical : m'.lexical = m.lexical)
    (hheap : m'.heap = m.heap) : m'.Intact := by
  have hobject : ∀ r, m'.object r = m.object r := fun r => by rw [object, object, hheap]
  exact hm.of_kept hlexical (Nat.le_of_eq (by rw [hheap])) fun r _ => hobject r

theorem find?_of_own {p : Property} (hr : 0 < m.heap.size)
    (h : (m.object r).own? key = some p) : m.find? r key = some p := by
  obtain ⟨size, hsize⟩ := Nat.exists_eq_succ_of_ne_zero (Nat.ne_of_gt hr)
  rw [find?, hsize, findFrom, h]

theorem Intact.pos (hm : m.Intact) : 0 < m.heap.size := Nat.lt_of_lt_of_le (by decide) hm.room

theorem Intact.find?_new (hm : m.Intact) {p : Property} (h : o.own? key = some p) :
    (m.withObject o).find? m.heap.size key = some p := by
  refine find?_of_own (hm.withObject o).pos ?_
  rw [object_withObject_self]
  exact h

theorem Intact.callable (hm : m.Intact) (hn : n ∈ hosts) :
    (m.object (Intrinsic.native n)).callable? = some (.native n) := by
  simp only [hosts, List.mem_cons, List.not_mem_nil, or_false] at hn
  rcases hn with rfl | rfl
  · rw [hm.kept _ (by decide) (by decide) (by decide)]
    rfl
  · rw [hm.kept _ (by decide) (by decide) (by decide)]
    rfl

/-- A script that was not loaded yet has touched nothing. -/
theorem intact_start (limit : Span) (w : World) :
    Intact { Memory.start limit with world := w } where
  free _ _ := rfl
  bound n hn := by
    simp only [hosts, List.mem_cons, List.not_mem_nil, or_false] at hn
    rcases hn with rfl | rfl <;> rfl
  room := Nat.le_refl _
  kept _ _ _ _ := rfl

end Machine

open Machine (Intact withObject)

variable {m m' : Machine} {n : Native} {call : Caller} {self : Value} {args : List Value}

/-! ## Calls -/

theorem run_get (m : Machine) : (get : Run Machine).run m = (.ok m, m) := rfl

theorem run_globalValue (call : Caller) (hm : m.Intact) (hn : n ∈ hosts) :
    (globalValue call n.name).run m = (.ok (.object (Intrinsic.native n)), m) := by
  rw [globalValue, run_bind, run_get]
  dsimp only
  rw [hm.free n hn]
  dsimp only
  rw [Machine.find?_of_own hm.pos (hm.bound n hn)]
  rfl

theorem run_callValue {r : Ref} (h : (m.object r).isCallable = true) :
    (callValue call (.object r) self args).run m = (call r self args).run m := by
  have hrun : (callValue call (.object r) self args).run m =
      (if (m.object r).isCallable then call r self args
        else raise .type "not a callable function").run m := rfl
  rw [hrun, if_pos h]

theorem run_invoke_native {depth : Nat} {f : Ref}
    (h : (m.object f).callable? = some (.native n)) :
    (invoke (depth + 1) f self args).run m = (callNative (invoke depth) n self args).run m := by
  have hread : (objectAt f).run m = (.ok (m.object f), m) := rfl
  rw [invoke, run_bind, hread]
  dsimp only
  rw [h]

theorem run_invoke_closure {depth : Nat} {f : Ref} {c : Closure}
    (h : (m.object f).callable? = some (.closure c)) :
    (invoke (depth + 1) f self args).run m = (c.run (invoke depth) self args).run m := by
  have hread : (objectAt f).run m = (.ok (m.object f), m) := rfl
  rw [invoke, run_bind, hread]
  dsimp only
  rw [h]

/-- A host function that is called by its name. -/
theorem run_host (depth : Nat) (self : Value) (args : List Value) (hm : m.Intact)
    (hn : n ∈ hosts) :
    (callValue (invoke (depth + 1)) (.object (Intrinsic.native n)) self args).run m =
      (callNative (invoke depth) n self args).run m := by
  have hcallable := hm.callable hn
  have his : (m.object (Intrinsic.native n)).isCallable = true := by
    rw [Object.isCallable, hcallable]
    rfl
  rw [run_callValue his, run_invoke_native hcallable]

/-! ## Texts -/

/-- The expression is a text, which is found without running anything. -/
def Scope.Reads (s : Scope) (e : Expr) (text : String) : Prop :=
  ∀ (call : Caller) (name : String) (m : Machine),
    (eval call s name e).run m = (.ok (.string text), m)

section
variable {s : Scope} {e f marker base payload : Expr} {text more name : String}

theorem reads_literal (s : Scope) (text : String) : s.Reads (.literal (.string text)) text := by
  intro call name m
  rw [eval, ofJson]
  rfl

theorem reads_a (h : s.a = some (.string text)) : s.Reads .a text := by
  intro call name m
  rw [eval, h]
  rfl

theorem reads_b (h : s.b = some (.string text)) : s.Reads .b text := by
  intro call name m
  rw [eval, h]
  rfl

theorem Scope.Reads.add (he : s.Reads e text) (hf : s.Reads f more) :
    s.Reads (.add [e, f]) (text ++ more) := by
  intro call name m
  have hsum : (addValues call (.string text) (.string more)).run m =
      (.ok (.string (text ++ more)), m) := rfl
  rw [eval, run_bind, he]
  dsimp only
  rw [evalSum, run_bind, hf]
  dsimp only
  rw [run_bind, hsum]
  dsimp only
  rw [evalSum]
  rfl

/-- A request for two texts in a row, in a measured scope of its own. -/
def measuredFetch (marker base payload : Expr) : Expr :=
  .measure [marker, .thunk [.return (.fetch [.add [base, payload]])]]

/-- The function that a thunk makes. -/
def thunkObject (s : Scope) (body : List Stmt) : Object where
  kind := .function (.closure ⟨body, s, .enclosing, false, false⟩)
  parent := some Intrinsic.functionPrototype
  properties := [("length", .hidden (.ofNat 0)), ("name", .hidden (.string ""))]

theorem run_thunk (call : Caller) (s : Scope) (body : List Stmt) (m : Machine) :
    (eval call s "" (.thunk body)).run m =
      (.ok (.object m.heap.size), m.withObject (thunkObject s body)) := by
  rw [eval]
  rfl

/-- The function that makes the request. -/
def requestObject (s : Scope) (base payload : Expr) : Object :=
  thunkObject s [.return (.fetch [.add [base, payload]])]

/-- The scope that is opened for a measured request. -/
def fetching (s : Scope) (base payload : Expr) (marker : String) (depth : Nat) (m : Machine) :
    Opening :=
  ⟨depth, marker, m.heap.size, m.withObject (requestObject s base payload)⟩

theorem run_measuredFetch {depth : Nat} (hm : m.Intact) (hmarker : s.Reads marker text) :
    (eval (invoke (depth + 1)) s name (measuredFetch marker base payload)).run m =
      (fetching s base payload text depth m).closed := by
  have hmeasure := run_globalValue (invoke (depth + 1)) hm (n := .measure) measure_mem_hosts
  have hargs : (evalList (invoke (depth + 1)) s
      [marker, .thunk [.return (.fetch [.add [base, payload]])]]).run m =
        (.ok [.string text, .object m.heap.size],
          m.withObject (requestObject s base payload)) := by
    rw [evalList, run_bind, hmarker]
    dsimp only
    rw [run_bind, evalList, run_bind, run_thunk]
    dsimp only
    rw [run_bind, evalList]
    rfl
  have hcall := run_host depth .undefined [.string text, .object m.heap.size]
    (hm.withObject (requestObject s base payload)) measure_mem_hosts
  have hscope := (settles (fetching s base payload text depth m)).measured .undefined (by
    rw [fetching, Machine.object_withObject_self]
    rfl)
  have hname : Native.measure.name = "measure" := rfl
  rw [hname] at hmeasure
  rw [measuredFetch, eval, run_bind, hmeasure]
  dsimp only
  rw [run_bind, hargs]
  exact hcall.trans hscope

/-- What the body of the scope comes to is what the request comes to. -/
theorem outcome_fetching (hm : m.Intact) (hbase : s.Reads base text)
    (hpayload : s.Reads payload more) (marker : String) (depth : Nat) :
    let o := fetching s base payload marker (depth + 2) m
    o.outcome = (fetch [.string (text ++ more)]).run o.start := by
  intro o
  have hstart : o.start.Intact :=
    (hm.withObject (requestObject s base payload)).of_memory rfl rfl
  have hbody : (o.start.object o.body).callable? =
      some (.closure ⟨[.return (.fetch [.add [base, payload]])], s, .enclosing, false, false⟩) := by
    have hobject : o.start.object o.body = requestObject s base payload :=
      Machine.object_withObject_self ..
    rw [hobject]
    rfl
  have hfetch := run_globalValue (invoke (depth + 1)) hstart (n := .fetch) fetch_mem_hosts
  have hname : Native.fetch.name = "fetch" := rfl
  rw [hname] at hfetch
  have hargs : (evalList (invoke (depth + 1)) s [.add [base, payload]]).run o.start =
      (.ok [.string (text ++ more)], o.start) := by
    rw [evalList, run_bind, hbase.add hpayload]
    dsimp only
    rw [run_bind, evalList]
    rfl
  have hcall := run_host depth .undefined [.string (text ++ more)] hstart fetch_mem_hosts
  rw [Opening.outcome, Opening.call]
  have hvalue : (eval (invoke (depth + 1)) s "" (.fetch [.add [base, payload]])).run o.start =
      (fetch [.string (text ++ more)]).run o.start := by
    rw [eval, run_bind, hfetch]
    dsimp only
    rw [run_bind, hargs]
    exact hcall
  have hdepth : o.depth = depth + 1 + 1 := rfl
  rw [hdepth, run_invoke_closure hbody, Closure.run, run_bind, execAll, run_bind]
  have hscope : Closure.scopeOf ⟨[.return (.fetch [.add [base, payload]])], s, .enclosing, false,
      false⟩ .undefined [] = s := rfl
  rw [hscope, exec, run_bind, hvalue]
  cases (fetch [.string (text ++ more)]).run o.start with
  | mk result m' => cases result <;> rfl

end

/-! ## Requests -/

/-- What a request comes to, by the result of the exchange. -/
def answered : Except Http.Failure Http.Response → Run Value
  | .ok ⟨status, .ok body⟩ => ofJson (responseJson status body 0)
  | .ok ⟨_, .error e⟩ => throwFailure e
  | .error e => throwFailure e

/-- The machine after an exchange. -/
def Machine.exchanged (m : Machine) (address : String) : Machine :=
  { m with world := (m.world.exchange m.limit "GET" address [] none).2 }

/-- A request without options gets the address and sends nothing along. -/
theorem run_fetch (address : String) (m : Machine) : (fetch [.string address]).run m =
    (answered (m.world.exchange m.limit "GET" address [] none).1).run (m.exchanged address) := by
  have hwanted : Wanted.ofJson .null = ⟨"GET", [], none⟩ := by
    have hmethod : Text.uppered "GET" = "GET" := by decide
    simp [Wanted.ofJson, Json.get?, hmethod]
  have htoken : Http.isToken "GET" = true := by
    rw [Http.isToken, String.all_bool_eq]
    decide
  have hinit : (initJson .undefined).run m = (.ok .null, m) := rfl
  have hexchange : (exchange address ⟨"GET", [], none⟩).run m =
      (.ok (m.world.exchange m.limit "GET" address [] none).1, m.exchanged address) := rfl
  have hallowed : ¬(!Http.isToken "GET") = true := by
    rw [htoken]
    exact Bool.false_ne_true
  simp only [fetch, List.getD_cons_zero, List.getD_cons_succ, List.getD_nil]
  rw [run_bind, hinit]
  dsimp only
  rw [hwanted, if_neg hallowed, run_bind, hexchange]
  dsimp only
  generalize (m.world.exchange m.limit "GET" address [] none).1 = result
  rcases result with e | ⟨status, e | body⟩ <;> rfl

/-! ## Answers -/

theorem toReal_ofNat (n : Nat) : Json.Number.toReal (.integer n) = Float.ofNat n := by
  rw [Json.Number.toReal, if_neg (by omega), Int.natAbs_natCast]

/-- The object of an answer. -/
def answerObject (status : Nat) (body : List UInt8) : Object where
  kind := .ordinary
  parent := some Intrinsic.objectPrototype
  properties := [("body", .plain (.string (.ofList (Text.Utf8.decodeLossy body)))),
    ("ok", .plain (.bool (200 ≤ status && status < 300))), ("proto_code", .plain (.ofNat status)),
    ("size_in", .plain (.ofNat body.length)), ("size_out", .plain (.ofNat 0)),
    ("status", .plain (.ofNat status))]

theorem run_answer (status : Nat) (body : List UInt8) (m : Machine) :
    (answered (.ok ⟨status, .ok body⟩)).run m =
      (.ok (.object m.heap.size), m.withObject (answerObject status body)) := by
  have hnumber : ∀ n : Nat, ofJson (.ofNat n) = pure (.ofNat n) := by
    intro n
    rw [Json.ofNat, ofJson, toReal_ofNat]
    rfl
  have hstring : ∀ text : String, ofJson (.string text) = pure (.string text) := by
    intro text
    rw [ofJson]
  have hbool : ∀ b : Bool, ofJson (.bool b) = pure (.bool b) := by
    intro b
    rw [ofJson]
  rw [answered, responseJson, ofJson]
  simp only [ofMembers, hnumber, hstring, hbool, pure_bind]
  rfl

/-- Without an element of a list among them the properties are in the order in which they were
made. -/
theorem ordered_of_named {o : Object} (h : ∀ e ∈ o.properties, index? e.1 = none) :
    o.ordered = o.properties := by
  have hall : (o.properties.filter fun e => (index? e.1).isNone) = o.properties :=
    List.filter_eq_self.mpr fun e he => by rw [h e he]; rfl
  rw [Object.ordered, List.foldl_ext _ (fun acc _ => acc), List.foldl_fixed]
  · exact hall
  · intro acc e he
    rw [h e he]

/-- The JSON form of an answer's object. -/
def answerFields (status : Nat) (body : List UInt8) : Json :=
  .object [("body", .string (.ofList (Text.Utf8.decodeLossy body))),
    ("ok", .bool (200 ≤ status && status < 300)), ("proto_code", jsonNumber (Float.ofNat status)),
    ("size_in", jsonNumber (Float.ofNat body.length)), ("size_out", jsonNumber (Float.ofNat 0)),
    ("status", jsonNumber (Float.ofNat status))]

theorem overrides_answer (status : Nat) (body : List UInt8) (m : Machine) :
    (m.withObject (answerObject status body)).overrides (.object m.heap.size) =
      .ok (some (answerFields status body)) := by
  have hobject : (m.withObject (answerObject status body)).object m.heap.size =
      answerObject status body := Machine.object_withObject_self ..
  have hcallable : (answerObject status body).isCallable = false := rfl
  have hnamed : ∀ key ∈ ["body", "ok", "proto_code", "size_in", "size_out", "status"],
      index? key = none := by decide
  have hordered : (answerObject status body).ordered = (answerObject status body).properties :=
    ordered_of_named fun e he => hnamed e.1 (List.mem_map_of_mem (f := (·.1)) he)
  have hjson : (m.withObject (answerObject status body)).json (.object m.heap.size) =
      .ok (answerFields status body) := by
    rw [Machine.json, Machine.size_withObject, toJson]
    simp only [hobject, hordered]
    simp only [answerObject, Property.plain, Value.ofNat, List.mapM_cons, List.mapM_nil, toJson]
    rfl
  rw [Machine.overrides, hobject, hcallable, hjson]
  rfl

/-! ## Figures of an answer -/

/-- A double that holds an integer keeps it in JSON, whether it is written there as an integer or
not. -/
theorem denotes_jsonNumber {x : Float} {i : Int} (h : Numeral.Holds x i) :
    ∃ k : Json.Number, jsonNumber x = .number k ∧ k.Denotes i := by
  have hheld := h
  obtain ⟨negative, b, n, hclass, hb, rfl⟩ := h
  rw [jsonNumber, hclass]
  dsimp only
  split
  · exact ⟨_, rfl, congrArg _ hb.whole⟩
  · exact ⟨_, rfl, hheld⟩

theorem given?_ofNat {f : Figure} {fields : Json} {n : Nat}
    (hget : fields.get? f.name = some (jsonNumber (Float.ofNat n))) (hn : n < 2 ^ 53)
    (hfits : f.Fits n) : ∃ x, f.given? fields = some x ∧ f.integer? x = some (n : Int) := by
  obtain ⟨k, hk, hdenotes⟩ := denotes_jsonNumber (Numeral.holds_ofNat hn)
  obtain ⟨x, hvalue, hx⟩ := Figure.value?_of_fits hdenotes hfits
  refine ⟨x, ?_, hx⟩
  rw [Figure.given?, hget, hk, Option.bind_some, hvalue]

theorem sizeIn_answer {status : Nat} {body : List UInt8} (h : body.length < 2 ^ 53) :
    Figure.sizeIn.given? (answerFields status body) = some (UInt64.ofNat body.length) := by
  have hget : (answerFields status body).get? Figure.sizeIn.name =
      some (jsonNumber (Float.ofNat body.length)) := by
    simp [answerFields, Json.get?, Json.lookup?, Figure.name]
  have hfits : Figure.sizeIn.Fits body.length := by
    show 0 ≤ (body.length : Int) ∧ (body.length : Int) < 2 ^ 64
    omega
  obtain ⟨x, hgiven, hx⟩ := given?_ofNat hget h hfits
  rw [hgiven]
  have hnat : ((x : UInt64).toNat : Int) = body.length := Option.some.inj hx
  have hword : (UInt64.ofNat body.length).toNat = body.length :=
    UInt64.toNat_ofNat_of_lt' (Nat.lt_trans h (by decide))
  exact congrArg some (UInt64.toNat_inj.mp (by omega))

theorem protoCode_answer {status : Nat} (h : status < 2 ^ 16) (body : List UInt8) :
    Figure.protoCode.given? (answerFields status body) = some (Int32.ofNat status) := by
  have hget : (answerFields status body).get? Figure.protoCode.name =
      some (jsonNumber (Float.ofNat status)) := by
    simp [answerFields, Json.get?, Json.lookup?, Figure.name]
  have hfits : Figure.protoCode.Fits status := by
    show -2 ^ 31 ≤ (status : Int) ∧ (status : Int) < 2 ^ 31
    omega
  obtain ⟨x, hgiven, hx⟩ := given?_ofNat hget (by omega) hfits
  rw [hgiven]
  have hint : (x : Int32).toInt = status := Option.some.inj hx
  have hcode : (Int32.ofNat status).toInt = status := Int32.toInt_ofNat_of_lt (by omega)
  exact congrArg some (Int32.toInt_inj.mp (hint.trans hcode.symm))

theorem netCode_answer (status : Nat) (body : List UInt8) :
    Figure.netCode.given? (answerFields status body) = none := by
  simp [Figure.given?, answerFields, Json.get?, Json.lookup?, Figure.name]

/-! ## Failures -/

/-- The object that a failed request throws. -/
def failureObject (e : Http.Failure) : Object where
  kind := .error .type
  parent := some (Intrinsic.errorPrototype .type)
  properties := [("message", .hidden (.string ("fetch failed: " ++ e.message))),
    ("net_code", .plain (.number (Float.ofInt (failureCode e).toInt)))]

theorem run_throwFailure (e : Http.Failure) (m : Machine) : (throwFailure e).run m =
    (.error (.thrown (.object m.heap.size)), m.withObject (failureObject e)) := by
  let bare : Object := ⟨.error .type, some (Intrinsic.errorPrototype .type),
    [("message", .hidden (.string ("fetch failed: " ++ e.message)))]⟩
  let code : Property := .plain (.number (Float.ofInt (failureCode e).toInt))
  have hrun : (throwFailure e).run m =
      let edited := ((m.withObject bare).object m.heap.size).define "net_code" code
      (.error (.thrown (.object m.heap.size)),
        { m with heap := (m.heap.push bare).setIfInBounds m.heap.size edited }) := rfl
  have hnamed : index? "net_code" = none := by decide
  have hdefine : bare.define "net_code" code = failureObject e := by
    rw [Object.define, hnamed]
    rfl
  have hset : (m.heap.push bare).setIfInBounds m.heap.size (failureObject e) =
      m.heap.push (failureObject e) := by
    refine Array.ext (by simp) fun i hi _ => ?_
    have hlt : i < (m.heap.push bare).size := by simpa using hi
    rw [Array.getElem_setIfInBounds hlt, Array.getElem_push, Array.getElem_push]
    by_cases hlast : m.heap.size = i
    · rw [if_pos hlast, dif_neg (by omega)]
    · rw [Array.size_push] at hlt
      rw [if_neg hlast, dif_pos (by omega), dif_pos (by omega)]
  rw [hrun]
  dsimp only
  rw [Machine.object_withObject_self, hdefine, hset]
  rfl

theorem cutToCode_failureCode (e : Http.Failure) :
    cutToCode (Float.ofInt (failureCode e).toInt) = failureCode e := by
  rw [failureCode]
  split <;> decide

/-- No error that a request throws has a cause. -/
theorem Machine.Intact.cause (hm : m.Intact) (e : Http.Failure) :
    (m.withObject (failureObject e)).find? m.heap.size "cause" = none := by
  have hroom := hm.room
  have hchain : 3 ≤ Intrinsic.heap.size := by decide
  obtain ⟨k, hk⟩ : ∃ k, m.heap.size = k + 3 := ⟨m.heap.size - 3, by omega⟩
  have hnew := hm.withObject (failureObject e)
  have hself : (m.withObject (failureObject e)).object m.heap.size = failureObject e :=
    object_withObject_self ..
  have htype := hnew.kept (Intrinsic.errorPrototype .type) (by decide) (by decide) (by decide)
  have herror := hnew.kept (Intrinsic.errorPrototype .error) (by decide) (by decide) (by decide)
  have hobject := hnew.kept Intrinsic.objectPrototype (by decide) (by decide) (by decide)
  rw [hk] at hself
  rw [find?, size_withObject, hk, findFrom, hself]
  show (m.withObject (failureObject e)).findFrom "cause" (k + 3) (Intrinsic.errorPrototype .type) =
    none
  rw [findFrom, htype]
  show (m.withObject (failureObject e)).findFrom "cause" (k + 2)
    (Intrinsic.errorPrototype .error) = none
  rw [findFrom, herror]
  show (m.withObject (failureObject e)).findFrom "cause" (k + 1) Intrinsic.objectPrototype = none
  rw [findFrom, hobject]
  rfl

theorem run_getProperty_data {r : Ref} {key : String} {v : Value} {enumerable : Bool}
    (h : m.find? r key = some (.data v enumerable)) :
    (getProperty call (.object r) key).run m = (.ok v, m) := by
  have hread : (getProperty call (.object r) key).run m =
      (readProperty call (.object r) (m.find? r key)).run m := rfl
  rw [hread, h]
  rfl

theorem run_attempt_of_ok {α : Type} {x : Run α} {a : α} (h : x.run m = (.ok a, m')) :
    (attempt x).run m = (.ok (some a), m') := by
  rw [attempt, run_tryCatch, run_bind, h]
  rfl

theorem run_thrownCode {r : Ref} {x : Float}
    (h : m.find? r "net_code" = some (.plain (.number x))) :
    (thrownCode call (.object r)).run m = (.ok (some (cutToCode x)), m) := by
  rw [thrownCode, run_bind, run_attempt_of_ok (run_getProperty_data h)]
  rfl

theorem run_errorMessage {r : Ref} {text : String}
    (hmessage : m.find? r "message" = some (.hidden (.string text)))
    (hcause : m.find? r "cause" = none) :
    (errorMessage call r).run m = (.ok (some text), m) := by
  have hread : ∀ v, (readProperty call (.object r) (some (.hidden v))).run m = (.ok v, m) :=
    fun _ => rfl
  rw [errorMessage, run_bind, run_get]
  dsimp only
  rw [hmessage]
  dsimp only
  rw [run_bind, hread]
  dsimp only
  rw [run_bind, run_get]
  dsimp only
  rw [hcause]
  rfl

theorem run_describe {r : Ref} {kind : ErrorKind} {text : String}
    (hkind : (m.object r).kind = .error kind)
    (htext : (errorMessage call r).run m = (.ok (some text), m)) :
    (describe call (.thrown (.object r))).run m = (.ok (errorText kind text), m) := by
  rw [describe, describeThrown, run_bind, run_get]
  dsimp only
  rw [hkind]
  dsimp only
  rw [run_bind, run_attempt_of_ok htext]
  rfl

/-- The shot of a scope that fails with the code of a failure. -/
def Shot.failedBy (shot : Shot) (e : Http.Failure) : Shot :=
  { shot with record := { shot.fail.record with netCode := failureCode e } }

/-- The scope of a failed request fails with the code of the failure. -/
theorem run_threw_failure (hm : m.Intact) (call : Caller) (shot : Shot) (e : Http.Failure) :
    (Shot.threw call shot (.object m.heap.size)).run (m.withObject (failureObject e)) =
      (.ok (Shot.failedBy shot e), m.withObject (failureObject e)) := by
  have hkind : ((m.withObject (failureObject e)).object m.heap.size).kind = .error .type := by
    rw [Machine.object_withObject_self]
    rfl
  have hnetCode : (m.withObject (failureObject e)).find? m.heap.size "net_code" =
      some (.plain (.number (Float.ofInt (failureCode e).toInt))) := hm.find?_new rfl
  have hmessage : (m.withObject (failureObject e)).find? m.heap.size "message" =
      some (.hidden (.string ("fetch failed: " ++ e.message))) := hm.find?_new rfl
  have htext : (errorMessage call m.heap.size).run (m.withObject (failureObject e)) =
      (.ok (some ("fetch failed: " ++ e.message)), m.withObject (failureObject e)) :=
    run_errorMessage hmessage (hm.cause e)
  rw [Shot.threw, run_bind, run_thrownCode hnetCode, cutToCode_failureCode]
  dsimp only
  rw [run_bind, run_describe hkind htext]
  rfl

/-! ## The scope of a request -/

/-- The shot of a measured request, by the result of the exchange. -/
def Shot.ofExchange (shot : Shot) : Except Http.Failure Http.Response → Shot
  | .ok ⟨status, .ok body⟩ => Shot.overridden shot (some (answerFields status body))
  | .ok ⟨_, .error e⟩ => Shot.failedBy shot e
  | .error e => Shot.failedBy shot e

section
variable {s : Scope} {base payload : Expr} {text more : String} {depth : Nat} {o : Opening}

theorem left_of_failure {e : Http.Failure} (hm : m.Intact)
    (h : o.outcome = (throwFailure e).run m) :
    o.left.2 = m.withObject (failureObject e) ∧ o.lastShot = Shot.failedBy o.shot e := by
  rw [run_throwFailure] at h
  have hleft := Opening.left_of_threw h
  rw [run_threw_failure hm] at hleft
  rw [Opening.lastShot, hleft]
  exact ⟨rfl, rfl⟩

/-- The scope of a request is left with nothing offered inside it, as the exchange tells. -/
theorem left_fetching (hm : m.Intact) (hbase : s.Reads base text) (hpayload : s.Reads payload more)
    (marker : String) (depth : Nat) :
    let o := fetching s base payload marker (depth + 2) m
    o.left.2.world.channel = m.world.channel ∧
      o.lastShot =
        Shot.ofExchange o.shot (m.world.exchange m.limit "GET" (text ++ more) [] none).1 := by
  intro o
  have hstart : (o.start.exchanged (text ++ more)).Intact :=
    (hm.withObject (requestObject s base payload)).of_memory rfl rfl
  have houtcome := outcome_fetching hm hbase hpayload marker depth
  have hresult : (o.start.world.exchange o.start.limit "GET" (text ++ more) [] none).1 =
      (m.world.exchange m.limit "GET" (text ++ more) [] none).1 := rfl
  have hchannel : (o.start.exchanged (text ++ more)).world.channel = m.world.channel := rfl
  dsimp only at houtcome
  rw [run_fetch, hresult] at houtcome
  generalize (m.world.exchange m.limit "GET" (text ++ more) [] none).1 = result at houtcome ⊢
  have hfailure : ∀ e, o.outcome = (throwFailure e).run (o.start.exchanged (text ++ more)) →
      o.left.2.world.channel = m.world.channel ∧ o.lastShot = Shot.failedBy o.shot e := by
    intro e h
    obtain ⟨hleft, hlast⟩ := left_of_failure hstart h
    refine ⟨?_, hlast⟩
    rw [hleft]
    exact hchannel
  rcases result with e | ⟨status, e | body⟩
  · exact hfailure e houtcome
  · exact hfailure e houtcome
  · rw [run_answer] at houtcome
    have hleft := Opening.left_of_returned houtcome
    rw [returned_eq, overrides_answer] at hleft
    rw [Opening.lastShot, hleft]
    exact ⟨hchannel, rfl⟩

end

end Volley.Script
