import Volley.Gun.Http
import Volley.Proofs.Script.Fetch

/-!
# Requests of the HTTP gun and of scripts

The HTTP gun assigns the figures of an exchange to its record itself; a script returns the answer to
the scope around the request, or throws an error with a code. Both come to the same tag, codes and
size, unless the body breaks off after a status that was good.

* `Http.Conclusive`: the results of an exchange of which that holds.
* `result_exchange`: on networks that answer alike an exchange comes to the same.
* `codes_agree`: the codes of the two records, by the result of the exchange.
* `requests_measure_alike`: the records that the two offer.
-/
namespace Volley

namespace Http

/-- The answer comes whole, or the exchange fails before a status or runs out of time. A status is a
word of 16 bits. -/
def Conclusive : Except Failure Response → Prop
  | .ok ⟨status, .ok _⟩ => status < 2 ^ 16
  | .ok ⟨_, .error e⟩ => e.isTimeout = true
  | .error _ => True

namespace Network

variable {n n' : Network}

/-- The networks answer alike from now on, whatever was sent before. -/
def Alike (n n' : Network) : Prop :=
  ∀ r later, n.respond (r :: later ++ n.sent) = n'.respond (r :: later ++ n'.sent)

theorem Alike.refl (n : Network) : n.Alike n := fun _ _ => rfl

theorem Alike.once (h : n.Alike n') (r : Request) :
    (n.once r).2 = (n'.once r).2 ∧ (n.once r).1.Alike (n'.once r).1 := by
  refine ⟨h r [], fun next later => ?_⟩
  have hnext := h next (later ++ [r])
  rwa [← List.cons_append, List.append_assoc, List.append_assoc] at hnext

/-- Networks that answer alike do so for as long as redirects lead on. -/
theorem result_send (h : n.Alike n') (more left : Nat) (r : Request) :
    (send more n left r).2 = (send more n' left r).2 := by
  induction more generalizing n n' left r with
  | zero =>
    rw [send, send]
    dsimp only
    rw [(h.once r).1]
    cases r.step left (n'.once r).2 <;> rfl
  | succ more ih =>
    rw [send, send]
    dsimp only
    rw [(h.once r).1]
    cases r.step left (n'.once r).2 with
    | done result => rfl
    | follow next left => exact ih (h.once r).2 left next

theorem result_exchange (h : n.Alike n') (limit : Span) (method address : String)
    (headers : List (String × String)) (body : Option (List UInt8)) :
    (n.exchange limit method address headers body).2 =
      (n'.exchange limit method address headers body).2 := by
  rw [exchange, exchange]
  cases Request.build method address headers body with
  | error e => rfl
  | ok r => exact result_send h 10 limit.toNanos r

end Network

end Http

open Http (Conclusive)

/-! ## Two records of one exchange -/

/-- The record of an HTTP gun for a result, and that of a script. -/
structure Agree (result : Except Http.Failure Http.Response) (fired measured : ShotRecord) :
    Prop where
  netCode : fired.netCode = measured.netCode
  protoCode : fired.protoCode = measured.protoCode
  /-- A number of a script counts bytes exactly as long as it has 53 binary digits for it. -/
  sizeIn : (∀ status body, result = .ok ⟨status, .ok body⟩ → body.length < 2 ^ 53) →
    fired.sizeIn = measured.sizeIn

variable {fresh : ShotRecord} {shot : Shot} {e : Http.Failure}
  {result : Except Http.Failure Http.Response}

/-- A record on which nothing was assigned that an exchange decides. -/
structure Fresh (r : ShotRecord) : Prop where
  netCode : r.netCode = Code.netOk
  protoCode : r.protoCode = Code.protoOk
  sizeIn : r.sizeIn = 0

theorem fresh_openShot (w : World) (marker : String) : Fresh (w.openShot marker).1.record :=
  ⟨rfl, rfl, rfl⟩

theorem Fresh.withSizeOut (h : Fresh fresh) (n : UInt64) : Fresh { fresh with sizeOut := n } :=
  ⟨h.netCode, h.protoCode, h.sizeIn⟩

theorem recordFailure_timedOut {r : ShotRecord} (h : e.isTimeout = true) :
    (HttpGun.recordFailure r e).1 =
      { r with netCode := Script.failureCode e, protoCode := Code.protoError } := by
  rw [HttpGun.recordFailure, if_pos h, Script.failureCode, if_pos h]

/-- Before a status every failure is told by the code that a script gets, beside the code of an
error. -/
theorem recordFailure_fresh (h : Fresh fresh) : (HttpGun.recordFailure fresh e).1 =
    { fresh with netCode := Script.failureCode e, protoCode := Code.protoError } := by
  by_cases htimeout : e.isTimeout = true
  · exact recordFailure_timedOut htimeout
  · have hcode : Script.failureCode e = Code.netTransport := if_neg htimeout
    rw [HttpGun.recordFailure, if_neg htimeout, hcode]
    split
    · rfl
    · simp [ShotRecord.markFailed, Figures.markFailed, h.netCode, h.protoCode]

theorem failedBy_fresh (h : Fresh shot.record) : (Script.Shot.failedBy shot e).record =
    { shot.record with netCode := Script.failureCode e, protoCode := Code.protoError } := by
  simp [Script.Shot.failedBy, Shot.fail, ShotRecord.markFailed, Figures.markFailed, h.protoCode]

theorem agree_of_conclusive (h : Conclusive result) (hfresh : Fresh fresh)
    (hshot : Fresh shot.record) : Agree result (HttpGun.recordExchange fresh result).1
      (Script.Shot.ofExchange shot result).record := by
  rcases result with e | ⟨status, e | body⟩
  · rw [HttpGun.recordExchange, recordFailure_fresh hfresh, Script.Shot.ofExchange,
      failedBy_fresh hshot]
    exact ⟨rfl, rfl, fun _ => hfresh.sizeIn.trans hshot.sizeIn.symm⟩
  · rw [HttpGun.recordExchange, recordFailure_timedOut h, Script.Shot.ofExchange,
      failedBy_fresh hshot]
    exact ⟨rfl, rfl, fun _ => hfresh.sizeIn.trans hshot.sizeIn.symm⟩
  · have hnet := Script.netCode_answer status body
    have hproto := Script.protoCode_answer h body
    have hsize : body.length < 2 ^ 53 →
        Figure.sizeIn.given? (Script.answerFields status body) =
          some (UInt64.ofNat body.length) := Script.sizeIn_answer
    rw [Script.Shot.ofExchange]
    -- from here on it does not matter how the figures stand in the object
    generalize Script.answerFields status body = fields at hnet hproto hsize ⊢
    have hread : ∀ f : Figure, f.read (Script.Shot.overridden shot (some fields)).record =
        (f.given? fields).getD (f.read shot.record) :=
      fun f => Script.read_overridden shot (some fields) f
    refine ⟨?_, ?_, fun hsmall => ?_⟩
    · have hsame := hread .netCode
      rw [hnet] at hsame
      exact hfresh.netCode.trans (hsame.trans hshot.netCode).symm
    · have hsame := hread .protoCode
      rw [hproto] at hsame
      exact hsame.symm
    · have hsame := hread .sizeIn
      rw [hsize (hsmall status body rfl)] at hsame
      exact hsame.symm

theorem tag_recordFailure (r : ShotRecord) (e : Http.Failure) :
    (HttpGun.recordFailure r e).1.tag = r.tag := by
  rw [HttpGun.recordFailure]
  split
  · rfl
  · split <;> rfl

theorem tag_recordExchange (r : ShotRecord) (result : Except Http.Failure Http.Response) :
    (HttpGun.recordExchange r result).1.tag = r.tag := by
  rcases result with e | ⟨status, e | body⟩
  · exact tag_recordFailure r e
  · exact tag_recordFailure _ e
  · rfl

/-! ## Two records of one request -/

namespace HttpGun

/-- The result of the exchange that a missile comes to. -/
def exchanged (g : HttpGun) (missile : Missile) (w : World) :
    Except Http.Failure Http.Response :=
  (w.exchange g.timeout "GET" (g.base ++ missile.payload) [] none).1

/-- The record of a missile before the exchange. -/
def sized (missile : Missile) (w : World) : ShotRecord :=
  { (w.openShot missile.marker).1.record with
    sizeOut := UInt64.ofNat missile.payload.utf8ByteSize }

/-- The record that a missile leaves. -/
def fired (g : HttpGun) (missile : Missile) (w : World) : Measurement :=
  { (w.openShot missile.marker).1 with
    record := (recordExchange (sized missile w) (g.exchanged missile w)).1 }.finish
    (w.openShot missile.marker).2.look.1

theorem channel_shoot (g : HttpGun) (missile : Missile) (w : World) :
    (g.shoot missile w).2.channel = (w.channel.offer (g.fired missile w)).1 := rfl

end HttpGun

open Script (Scope Expr Machine eval invoke measuredFetch)

variable {m : Machine} {s : Scope} {marker base payload : Expr} {depth : Nat}

/-- **The HTTP gun and a script measure a request alike.** With the same time limit, and on networks
that answer alike from now on, whatever was requested before: the record of a missile and the record
of a script that measures a request for the same address have the same tag, the same codes and the
same size, if the answer comes whole, or the exchange fails before a status or runs out of time. A
script counts bytes with a double, which is exact below 2^53 of them; no memory holds a body of that
size. -/
theorem requests_measure_alike (g : HttpGun) (missile : Missile) (w : World) (hm : m.Intact)
    (hnetwork : m.world.network.Alike w.network) (hlimit : m.limit = g.timeout)
    (hmarker : s.Reads marker missile.marker) (hbase : s.Reads base g.base)
    (hpayload : s.Reads payload missile.payload) (hdepth : 3 ≤ depth) (name : String)
    (hconclusive : Conclusive (g.exchanged missile w)) :
    ∃ fired measured : Measurement,
      (g.shoot missile w).2.channel = (w.channel.offer fired).1 ∧
      ((eval (invoke depth) s name (measuredFetch marker base payload)).run m).2.world.channel =
        (m.world.channel.offer measured).1 ∧
      fired.tag = measured.tag ∧ fired.netCode = measured.netCode ∧
      fired.protoCode = measured.protoCode ∧
      ((∀ status body, g.exchanged missile w = .ok ⟨status, .ok body⟩ →
        body.length < 2 ^ 53) → fired.sizeIn = measured.sizeIn) := by
  obtain ⟨rest, rfl⟩ : ∃ rest, depth = rest + 2 + 1 := ⟨depth - 3, by omega⟩
  let o := Script.fetching s base payload missile.marker (rest + 2) m
  obtain ⟨hchannel, hlast⟩ := Script.left_fetching hm hbase hpayload missile.marker rest
  have hresult : (m.world.exchange m.limit "GET" (g.base ++ missile.payload) [] none).1 =
      g.exchanged missile w := by
    rw [hlimit]
    exact Http.Network.result_exchange hnetwork g.timeout "GET" (g.base ++ missile.payload) [] none
  rw [hresult] at hlast
  have hsized : Fresh (HttpGun.sized missile w) := (fresh_openShot w missile.marker).withSizeOut _
  have hshot : Fresh o.shot.record := fresh_openShot o.machine.world missile.marker
  have hagree := agree_of_conclusive hconclusive hsized hshot
  rw [← hlast] at hagree
  have hfired : (g.fired missile w).toFigures =
      (HttpGun.recordExchange (HttpGun.sized missile w) (g.exchanged missile w)).1.toFigures := rfl
  have hmeasured : o.record.toFigures = o.lastShot.record.toFigures := rfl
  have htag : (g.fired missile w).tag = missile.marker := tag_recordExchange _ _
  have htag' : o.record.tag = missile.marker := o.tag_lastShot
  refine ⟨g.fired missile w, o.record, g.channel_shoot missile w, ?_, htag.trans htag'.symm, ?_⟩
  · rw [Script.run_measuredFetch hm hmarker, o.closed_eq.2.1, hchannel]
  · rw [hfired, hmeasured]
    exact ⟨hagree.netCode, hagree.protoCode, hagree.sizeIn⟩

/-- A network whose servers know no target. -/
def lostNetwork : Http.Network :=
  ⟨fun _ => .atOnce (.status 404 none (.atOnce (.whole [110, 111]))), []⟩

def lostWorld : World := { World.quiet 64 with network := lostNetwork }

def lostGun : HttpGun := ⟨"http://h/", ⟨11, 0⟩⟩

def lostMissile : Missile := { payload := "lost", marker := "step" }

theorem exchanged_lost :
    lostGun.exchanged lostMissile lostWorld = .ok ⟨404, .ok [110, 111]⟩ := rfl

/-- The names in a function that is called with the missile. -/
def lostScope : Scope :=
  { (default : Scope) with a := some (.string "lost"), b := some (.string "step") }

def lostMachine : Machine := { Script.Memory.start lostGun.timeout with world := lostWorld }

theorem requests_measure_alike_lost :
    lostMachine.Intact ∧ Conclusive (lostGun.exchanged lostMissile lostWorld) ∧
    lostScope.Reads .b "step" ∧ lostScope.Reads (.literal (.string "http://h/")) "http://h/" ∧
    lostScope.Reads .a "lost" ∧ ∃ fired measured : Measurement,
      (lostGun.shoot lostMissile lostWorld).2.channel = (lostWorld.channel.offer fired).1 ∧
      ((eval (invoke 3) lostScope "" (measuredFetch .b (.literal (.string "http://h/")) .a)).run
        lostMachine).2.world.channel = (lostWorld.channel.offer measured).1 ∧
      fired.tag = measured.tag ∧ fired.netCode = measured.netCode ∧
      fired.protoCode = measured.protoCode ∧ fired.sizeIn = measured.sizeIn := by
  have hm : lostMachine.Intact := Machine.intact_start lostGun.timeout lostWorld
  have hconclusive : Conclusive (lostGun.exchanged lostMissile lostWorld) := by
    rw [exchanged_lost]
    show 404 < 2 ^ 16
    decide
  have hmarker : lostScope.Reads .b "step" := Script.reads_b rfl
  have hbase := Script.reads_literal lostScope "http://h/"
  have hpayload : lostScope.Reads .a "lost" := Script.reads_a rfl
  obtain ⟨fired, measured, hfired, hmeasured, htag, hnet, hproto, hsize⟩ :=
    requests_measure_alike lostGun lostMissile lostWorld hm (.refl _) rfl hmarker hbase hpayload
      (Nat.le_refl 3) "" hconclusive
  refine ⟨hm, hconclusive, hmarker, hbase, hpayload, fired, measured, hfired, hmeasured, htag, hnet,
    hproto, hsize fun status body h => ?_⟩
  rw [exchanged_lost] at h
  cases h
  decide

/-- The answer of the server is no success, and its two bytes are counted. -/
example : (lostGun.shoot lostMissile lostWorld).2.channel.queue.map
    (fun r => (r.tag, r.netCode, r.protoCode, r.sizeIn)) = [("step", 0, 404, 2)] := by
  decide

end Volley
