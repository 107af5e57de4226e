import Volley.Proofs.Gun.Scopes

/-!
# The errors of a script gun

Whether the error of a shot is on record depends on its script: the enclosing shot tells of it only
if the script opened no scope or broke the engine. Where the script opened scopes and threw outside
of them, the error is returned and all that was offered may be successes.

* `FailureOffered`: among the records that were offered in between is one of a failure.
* `error_on_record_iff`: which errors of a shot are on record.
* `lateThrow_unrecorded`: an error that is not.
-/
namespace Volley

/-! ## Failed records -/

namespace Channel

/-- Records were offered in between, one of them of a failure. A channel without room does not tell
one record from another; in one with room the failure is found (`FailureOffered.mem_queue`). -/
def FailureOffered (c c' : Channel) : Prop :=
  ∃ records : List Measurement,
    c' = c.offerAll records ∧ ∃ record ∈ records, record.isSuccess = false

/-- A failure is offered, after other records. -/
theorem failureOffered_offer (c : Channel) (earlier : List Measurement) {record : Measurement}
    (h : record.isSuccess = false) :
    FailureOffered c ((c.offerAll earlier).offer record).1 :=
  ⟨earlier ++ [record], (c.offerAll_append earlier [record]).symm, record,
    List.mem_append_right _ (List.mem_singleton_self _), h⟩

/-- All records find their way to the queue of a channel with room for them. -/
theorem queue_offerAll (records : List Measurement) {c : Channel} (hr : c.receiving = true)
    (hroom : c.queue.length + records.length ≤ c.capacity) :
    (c.offerAll records).queue = c.queue ++ records := by
  induction records generalizing c with
  | nil => exact (List.append_nil _).symm
  | cons record records ih =>
    rw [List.length_cons] at hroom
    have htaken : (c.offer record).2 = true := (c.offer_snd record).mpr ⟨hr, by omega⟩
    have hqueue : (c.offer record).1.queue = c.queue ++ [record] := by
      rw [queue_offer, htaken, if_pos rfl]
    have hrest := ih (c := (c.offer record).1) ((c.receiving_offer record).trans hr) (by
      rw [hqueue, capacity_offer, List.length_append, List.length_singleton]
      omega)
    rw [hqueue, List.append_assoc, List.singleton_append] at hrest
    exact hrest

/-- A failure that was offered to a channel with room is in the queue. -/
theorem FailureOffered.mem_queue {c c' : Channel} (h : FailureOffered c c')
    (hr : c.receiving = true)
    (hroom : c.queue.length + c'.tally.offered ≤ c.capacity + c.tally.offered) :
    ∃ record ∈ c'.queue, record.isSuccess = false := by
  obtain ⟨records, rfl, record, hmem, hfailed⟩ := h
  rw [offered_offerAll] at hroom
  refine ⟨record, ?_, hfailed⟩
  rw [queue_offerAll records hr (by omega)]
  exact List.mem_append_right _ hmem

end Channel

open Channel (FailureOffered)

namespace ScriptGun

/-! ## Failed shots -/

/-- The enclosing shot of a call that failed without scopes is a failed record under its marker. -/
theorem settle_error {shot : Shot} {call : Extension.ScriptUnit.Call} {w : World} {f : Fault}
    (h : (settle shot call w).1 = .error f) (hs : call.steps = 0) :
    ∃ record : Measurement, record.tag = shot.record.tag ∧ record.isSuccess = false ∧
      (settle shot call w).2.channel = (w.channel.offer record).1 := by
  have hnone : ¬ 0 < call.steps := Nat.not_lt.mpr (Nat.le_of_eq hs)
  rw [settle, if_neg hnone] at h ⊢
  have hfailed : (judge shot.record call).1.isSuccess = false := by
    unfold judge at h ⊢
    dsimp only at h ⊢
    split at h
    · cases h
    · cases h
    · exact Figures.not_isSuccess_markFailed _
  exact ⟨({ shot with record := (judge shot.record call).1 } : Shot).finish w.look.1,
    tag_judge _ _, hfailed, rfl⟩

/-- The error of a shot without scopes is a failed record under the marker of the shot. -/
theorem failed_record_of_shot {g : ScriptGun} (hg : g.slot.engine.isSome = true) (m : Missile)
    (w : World) {f : Fault} (herror : (g.shoot m w).1 = .error f) (hopened : g.opened m w = 0) :
    ∃ record : Measurement, record.tag = m.marker ∧ record.isSuccess = false ∧
      (g.shoot m w).2.2.channel = ((g.scriptChannel m w).offer record).1 := by
  obtain ⟨hscript, f', g', hshot, -, -⟩ | ⟨i, machine, hscript, f', g', hshot, -, -⟩ |
    ⟨invocation, machine, hscript, call, g', w', hshot, -, hsteps, hchannel, -, -⟩ :=
      shoot_cases hg m w
  · rw [hshot, scriptChannel, hscript]
    exact ⟨(w.openShot m.marker).1.fail.finish (w.openShot m.marker).2.look.1, rfl,
      Figures.not_isSuccess_markFailed _, rfl⟩
  · rw [hshot, scriptChannel, hscript]
    exact ⟨(w.openShot m.marker).1.fail.finish machine.world.look.1, rfl,
      Figures.not_isSuccess_markFailed _, rfl⟩
  · have hleft : g.scriptChannel m w = w'.channel := by rw [scriptChannel, hscript, hchannel]
    have hcount : call.steps = 0 := by
      rw [opened, hscript] at hopened
      exact hsteps.trans hopened
    obtain hshot | ⟨-, hshot⟩ := hshot
    · rw [hshot] at herror
      rw [hshot, hleft]
      exact settle_error herror hcount
    · rw [hshot] at herror
      cases herror

/-- **Which errors are on record.** After any requests to a gun with an engine, a shot that fails
without scopes, or by breaking the engine, adds a failed record under its marker to what its script
offered. A shot that fails any other way adds nothing, so its error is on record exactly if one of
its scopes is a failure. -/
theorem error_on_record_iff {g₀ : ScriptGun} (hengine : g₀.slot.engine.isSome = true)
    (history : List (Request × World)) (m : Missile) (w : World) {f : Fault}
    (herror : ((g₀.serveAll history).shoot m w).1 = .error f) :
    let g := g₀.serveAll history
    let after := (g.shoot m w).2.2.channel
    (g.opened m w = 0 ∨ g.Breaks m w → ∃ record : Measurement, record.tag = m.marker ∧
      record.isSuccess = false ∧ after = ((g.scriptChannel m w).offer record).1) ∧
    (¬ (g.opened m w = 0 ∨ g.Breaks m w) → after = g.scriptChannel m w) ∧
    (FailureOffered w.channel after ↔ g.opened m w = 0 ∨ g.Breaks m w ∨
      FailureOffered w.channel (g.scriptChannel m w)) := by
  intro g after
  have hg := hasEngine_serveAll history hengine
  obtain ⟨-, -, hscopes, hbroken, -⟩ := records_of_shot hg m w
  obtain ⟨records, -, hleft⟩ := g.emits_script m w
  have hadds : g.opened m w = 0 ∨ g.Breaks m w → ∃ record : Measurement, record.tag = m.marker ∧
      record.isSuccess = false ∧ after = ((g.scriptChannel m w).offer record).1 := by
    rintro (hnone | hbreaks)
    · exact failed_record_of_shot hg m w herror hnone
    · exact hbroken hbreaks
  have hkeeps : ¬ (g.opened m w = 0 ∨ g.Breaks m w) → after = g.scriptChannel m w := by
    intro h
    obtain ⟨hsome, hends⟩ := not_or.mp h
    exact hscopes (Nat.one_le_iff_ne_zero.mpr hsome) hends
  refine ⟨hadds, hkeeps, ?_⟩
  rw [← or_assoc]
  by_cases h : g.opened m w = 0 ∨ g.Breaks m w
  · refine iff_of_true ?_ (.inl h)
    obtain ⟨record, -, hfailed, hoffer⟩ := hadds h
    rw [hoffer, hleft]
    exact w.channel.failureOffered_offer records hfailed
  · rw [hkeeps h, or_iff_right h]

/-! ## Two guns that fail -/

open Script (Stmt)

def throwBoom : Stmt := .throw (.literal (.string "boom"))

/-- A function that throws before any scope. -/
def throwsAtOnce : ScriptGun := loaded .custom [.function "shoot" [throwBoom]]

theorem error_on_record_iff_throwsAtOnce :
    let g := throwsAtOnce.serveAll [(.initHook, sampleWorld)]
    let shot := g.shoot ⟨"p", "outer"⟩ sampleWorld
    throwsAtOnce.slot.engine.isSome = true ∧ (∃ f, shot.1 = .error f) ∧
      shot.2.2.channel.queue.map (fun r => (r.tag, r.isSuccess)) = [("outer", false)] ∧
      FailureOffered sampleWorld.channel shot.2.2.channel := by
  intro g shot
  have hengine : throwsAtOnce.slot.engine.isSome = true := by decide +kernel
  have hnone : shot.1.toOption = none := by decide +kernel
  have hopened : g.opened ⟨"p", "outer"⟩ sampleWorld = 0 := by decide +kernel
  obtain ⟨f, herror⟩ := error_of_toOption hnone
  obtain ⟨-, -, hiff⟩ := error_on_record_iff hengine [(.initHook, sampleWorld)] ⟨"p", "outer"⟩
    sampleWorld herror
  exact ⟨hengine, ⟨f, herror⟩, by decide +kernel, hiff.mpr (.inl hopened)⟩

/-- A function that throws after a scope. -/
def lateThrow : ScriptGun := loaded .custom [.function "shoot" [step "step", throwBoom]]

/-- The shot returns an error, and all that was offered for it is the successful scope. -/
theorem lateThrow_unrecorded :
    let shot := lateThrow.shoot ⟨"p", "outer"⟩ sampleWorld
    lateThrow.slot.engine.isSome = true ∧ (∃ f, shot.1 = .error f) ∧
      shot.2.2.channel.queue.map (fun r => (r.tag, r.isSuccess)) = [("step", true)] ∧
      ¬ FailureOffered sampleWorld.channel shot.2.2.channel := by
  intro shot
  have hnone : shot.1.toOption = none := by decide +kernel
  have hqueue : shot.2.2.channel.queue.map (fun r => (r.tag, r.isSuccess)) = [("step", true)] := by
    decide +kernel
  refine ⟨by decide +kernel, error_of_toOption hnone, hqueue, fun hoffered => ?_⟩
  obtain ⟨record, hmem, hfailed⟩ := hoffered.mem_queue rfl (by decide +kernel)
  have hpair : (record.tag, record.isSuccess) ∈ [("step", true)] := by
    rw [← hqueue]
    exact List.mem_map.mpr ⟨record, hmem, rfl⟩
  have hsuccess : record.isSuccess = true := congrArg Prod.snd (List.mem_singleton.mp hpair)
  rw [hfailed] at hsuccess
  cases hsuccess

end ScriptGun

end Volley
