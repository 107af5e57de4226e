import Mathlib.Data.List.Basic
import Volley.Proofs.Channel.Traffic

/-!
# What a channel tells of its losses

A record does not reach the consumer if its offer is refused, or if it still waits when the consumer
goes: then it was accepted, and goes with the queue. The tallies tell only of the first.

* `step_cases`: what one event can do to the queue, the offers and what was drained.
* `abandoned_run`: where the accepted records of a run are.
* `lost_counts_refused`: the balance of all offers.
* `abandoned_not_lost`: a run whose tallies miss a record.
-/
namespace Volley.Traffic

open Channel

/-- An event offers a record, hands out the oldest one, lets the consumer go, or has to do with
senders and scopes alone. -/
theorem step_cases (t : Traffic) (e : Event) :
    (∃ m scopes, step t e =
      { t with channel := (t.channel.offer m).1, scopes, offers := t.offersWith (some m) }) ∨
    (∃ m r, t.channel.queue = m :: r ∧ step t e =
      { t with channel := { t.channel with queue := r }, drained := t.drained ++ [m] }) ∨
    (e = .dropReceiver ∧ step t e = { t with channel := t.channel.dropReceiver }) ∨
    ∃ senders scopes, step t e = { t with channel := { t.channel with senders }, scopes } := by
  have hsame : ∃ senders scopes, t = { t with channel := { t.channel with senders }, scopes } :=
    ⟨t.channel.senders, t.scopes, rfl⟩
  cases e with
  | offer m =>
    simp only [step]
    split
    · exact .inr (.inr (.inr hsame))
    · exact .inl ⟨m, t.scopes, rfl⟩
  | openScope marker now =>
    simp only [step]
    split
    · exact .inr (.inr (.inr hsame))
    · exact .inr (.inr (.inr ⟨t.channel.senders, _, rfl⟩))
  | closeScope i edit ending now =>
    simp only [step]
    split
    · exact .inr (.inr (.inr hsame))
    · rename_i shot _
      cases hm : ({ shot with record := edit shot.record } : Shot).emitted ending now with
      | none =>
        rw [Shot.close_of_not_emitted hm]
        refine .inr (.inr (.inr ⟨t.channel.senders, t.scopes.eraseIdx i, ?_⟩))
        simp only [offersWith, Option.map_none, Option.toList_none, List.append_nil]
      | some m =>
        rw [Shot.close_of_emitted hm]
        exact .inl ⟨m, _, rfl⟩
  | measure marker start stop body =>
    simp only [step, Shot.around_fst]
    split
    · exact .inr (.inr (.inr hsame))
    · exact .inl ⟨_, t.scopes, rfl⟩
  | drain =>
    obtain ⟨m, r, hq, hd⟩ | ⟨-, hd⟩ := t.channel.drain_cases
    · exact .inr (.inl ⟨m, r, hq, by simp only [step, hd]⟩)
    · refine .inr (.inr (.inr ?_))
      by_cases hs : t.channel.senders = 0 <;> simp only [step, hd, hs, ite_true, ite_false] <;>
        exact hsame
  | tryDrain =>
    obtain ⟨m, r, hq, hd⟩ | ⟨-, hd⟩ := t.channel.tryDrain_cases
    · exact .inr (.inl ⟨m, r, hq, by simp only [step, hd]⟩)
    · refine .inr (.inr (.inr ?_))
      simp only [step, hd]
      exact hsame
  | cloneSender =>
    simp only [step]
    split
    · exact .inr (.inr (.inr hsame))
    · exact .inr (.inr (.inr ⟨_, t.scopes, rfl⟩))
  | dropSender =>
    simp only [step]
    split
    · exact .inr (.inr (.inr hsame))
    · exact .inr (.inr (.inr ⟨_, t.scopes, rfl⟩))
  | dropReceiver => exact .inr (.inr (.inl ⟨rfl, rfl⟩))

/-- The consumer only goes when it is let go. -/
theorem receiving_step {t : Traffic} {e : Event} (hr : t.channel.receiving = true)
    (he : e ≠ .dropReceiver) : (step t e).channel.receiving = true := by
  obtain ⟨m, scopes, h⟩ | ⟨m, r, -, h⟩ | ⟨rfl, -⟩ | ⟨senders, scopes, h⟩ := step_cases t e
  · rw [h]
    exact (receiving_offer _ m).trans hr
  · rw [h]
    exact hr
  · exact absurd rfl he
  · rw [h]
    exact hr

/-! ## After the consumer -/

/-- The consumer is gone, and with it what waited. -/
structure Deserted (t : Traffic) : Prop where
  gone : t.channel.receiving = false
  nothing : t.channel.queue = []

/-- Without a consumer nothing is accepted and nothing drained. -/
theorem deserted_step {t : Traffic} (h : Deserted t) (e : Event) :
    Deserted (step t e) ∧ (step t e).drained = t.drained ∧
      taken (step t e).offers = taken t.offers := by
  obtain ⟨m, scopes, hs⟩ | ⟨m, r, hq, -⟩ | ⟨-, hs⟩ | ⟨senders, scopes, hs⟩ := step_cases t e
  · obtain ⟨-, ho⟩ | ⟨hr, -⟩ | ⟨hr, -⟩ := t.channel.offer_cases m
    · rw [hs]
      refine ⟨⟨?_, ?_⟩, rfl, ?_⟩
      · rw [ho]
        exact h.gone
      · rw [ho]
        exact h.nothing
      · show taken (t.offers ++ [(m, (t.channel.offer m).2)]) = _
        rw [taken_snoc, ho]
        exact List.append_nil _
    · cases h.gone.symm.trans hr
    · cases h.gone.symm.trans hr
  · cases h.nothing.symm.trans hq
  · rw [hs]
    exact ⟨⟨rfl, rfl⟩, rfl, rfl⟩
  · rw [hs]
    exact ⟨⟨h.gone, h.nothing⟩, rfl, rfl⟩

theorem run_cons (t : Traffic) (e : Event) (es : List Event) :
    run t (e :: es) = run (step t e) es := rfl

theorem deserted_run (es : List Event) {t : Traffic} (h : Deserted t) :
    Deserted (run t es) ∧ (run t es).drained = t.drained ∧
      taken (run t es).offers = taken t.offers := by
  induction es generalizing t with
  | nil => exact ⟨h, rfl, rfl⟩
  | cons e es ih =>
    obtain ⟨hnext, hdrained, htaken⟩ := deserted_step h e
    obtain ⟨hrun, hdrained', htaken'⟩ := ih hnext
    exact ⟨hrun, hdrained'.trans hdrained, htaken'.trans htaken⟩

/-! ## The accepted records -/

/-- The records that wait when the consumer goes; none if it stays. -/
def abandoned (t : Traffic) : List Event → List Measurement
  | [] => []
  | .dropReceiver :: _ => t.channel.queue
  | e :: es => abandoned (step t e) es

theorem abandoned_cons {t : Traffic} {e : Event} (he : e ≠ .dropReceiver) (es : List Event) :
    abandoned t (e :: es) = abandoned (step t e) es := by
  cases e <;> first | rfl | exact absurd rfl he

/-- The accepted records were drained, or were abandoned, or wait, in this order. Some are abandoned
only when the consumer goes, and none waits after that. -/
theorem abandoned_run (es : List Event) {limit : Nat} {t : Traffic} (h : Balanced limit t)
    (hr : t.channel.receiving = true) :
    (run t es).drained ++ abandoned t es ++ (run t es).channel.queue = taken (run t es).offers ∧
      ((run t es).channel.receiving = true → abandoned t es = []) ∧
      ((run t es).channel.receiving = false → (run t es).channel.queue = []) := by
  induction es generalizing t with
  | nil =>
    refine ⟨?_, fun _ => rfl, fun hgone => ?_⟩
    · rw [abandoned, List.append_nil]
      exact h.order hr
    · cases hr.symm.trans hgone
  | cons e es ih =>
    by_cases he : e = .dropReceiver
    · subst he
      obtain ⟨hgone, hdrained, htaken⟩ :=
        deserted_run es (t := step t .dropReceiver) ⟨rfl, rfl⟩
      rw [run_cons, abandoned]
      refine ⟨?_, fun hr' => ?_, fun _ => hgone.nothing⟩
      · rw [hdrained, hgone.nothing, htaken, List.append_nil]
        exact h.order hr
      · cases hgone.gone.symm.trans hr'
    · rw [abandoned_cons he]
      exact ih (balanced_step h e) (receiving_step hr he)

/-- **What is lost was refused.** In every state of a run the tally of lost records is the number of
offers that were refused. The accepted records were drained, were abandoned (they waited when the
consumer went), or wait, in this order; and no tally tells of the abandoned ones. So the lost
records are the offers less what was drained and what waits only as long as nothing was abandoned,
which is sure while the consumer is there. Once it is gone nothing waits, and what never reached it
is what was lost and what was abandoned. -/
theorem lost_counts_refused (capacity : Nat) (es : List Event) :
    let t := run (start capacity) es
    let left := abandoned (start capacity) es
    t.channel.tally.offered = t.offers.length ∧
    t.channel.tally.lost = (t.offers.filter fun o => !o.2).length ∧
    t.drained ++ left ++ t.channel.queue = taken t.offers ∧
    t.channel.tally.offered =
      t.drained.length + left.length + t.channel.queue.length + t.channel.tally.lost ∧
    (t.channel.receiving = true → left = []) ∧
    (t.channel.receiving = false → t.channel.queue = []) := by
  intro t left
  have h : Balanced (max capacity 1) t := balanced_run es (balanced_start capacity)
  obtain ⟨horder, hthere, hgone⟩ := abandoned_run es (balanced_start capacity) rfl
  have htotal : t.channel.tally.offered = t.channel.tally.accepted + t.channel.tally.lost := by
    rw [h.counted.total, Nat.add_assoc]
    rfl
  have hsplit : t.offers.length =
      (taken t.offers).length + (t.offers.filter fun o => !o.2).length := by
    rw [taken, List.length_map]
    exact List.length_eq_length_filter_add _
  have hwhere : (taken t.offers).length =
      t.drained.length + left.length + t.channel.queue.length := by
    rw [← horder, List.length_append, List.length_append]
  have hoffered := h.counted.offered
  have haccepted := h.counted.accepted
  exact ⟨hoffered, by omega, horder, by omega, hthere, hgone⟩

/-- A record that is accepted and never drained. -/
def leftWaiting : List Event := [.offer default, .dropReceiver]

/-- It did not reach the consumer and does not wait, and yet no record counts as lost. -/
theorem abandoned_not_lost :
    let t := run (start 1) leftWaiting
    t.channel.receiving = false ∧ t.channel.tally.offered = 1 ∧ t.drained.length = 0 ∧
      t.channel.queue.length = 0 ∧ t.channel.tally.lost = 0 ∧
      t.channel.tally.offered ≠ t.drained.length + t.channel.tally.lost ∧
      t.channel.tally.lost ≠
        t.channel.tally.offered - t.drained.length - t.channel.queue.length := by
  decide

end Volley.Traffic
