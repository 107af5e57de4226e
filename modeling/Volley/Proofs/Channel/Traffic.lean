import Volley.Shot

/-!
# Traffic on a result channel

A `Traffic` is a channel in use. Senders come and go, offer records directly or through measured
scopes, and one consumer drains them until it goes too. Every offer is kept with its answer, so that
the tallies and the order of the records can be held against what really happened.

* `Counted`: the tallies of a channel tell what became of the offers; an offer keeps that.
* `balanced_run`: the invariant of any traffic.
* `balanced_everywhere`: what follows for the queue, the tallies, an offer and a drain in every
  reachable state.

An event that is not possible (an offer where no sender is left, the end of a scope that is not
open, the last sender going while a scope still holds on to it) changes nothing, so every list of
events stands for some traffic.
-/
namespace Volley

/-- What one offer comes to. -/
inductive Tally.Verdict where
  | accepted
  | dropped
  | closed
  deriving DecidableEq, Repr

/-- The tally after one more offer. -/
def Tally.add (t : Tally) : Tally.Verdict → Tally
  | .accepted => { t with offered := t.offered + 1, accepted := t.accepted + 1 }
  | .dropped => { t with offered := t.offered + 1, dropped := t.dropped + 1 }
  | .closed => { t with offered := t.offered + 1, closed := t.closed + 1 }

namespace Channel

/-! ## One offer -/

/-- The records of the offers that were taken, in order. -/
def taken (offers : List (Measurement × Bool)) : List Measurement :=
  (offers.filter (·.2)).map (·.1)

theorem taken_snoc (offers : List (Measurement × Bool)) (m : Measurement) (answer : Bool) :
    taken (offers ++ [(m, answer)]) = taken offers ++ (if answer then [m] else []) := by
  cases answer <;> simp [taken]

/-- An offer finds the consumer gone, or room in the queue, or none. -/
theorem offer_cases (c : Channel) (m : Measurement) :
    (c.receiving = false ∧ c.offer m = ({ c with tally := c.tally.add .closed }, false)) ∨
    (c.receiving = true ∧ c.queue.length < c.capacity ∧
      c.offer m = ({ c with queue := c.queue ++ [m], tally := c.tally.add .accepted }, true)) ∨
    (c.receiving = true ∧ c.capacity ≤ c.queue.length ∧
      c.offer m = ({ c with tally := c.tally.add .dropped }, false)) := by
  cases hr : c.receiving with
  | false => exact .inl ⟨rfl, by simp [offer, hr, Tally.add]⟩
  | true =>
    by_cases hroom : c.queue.length < c.capacity
    · exact .inr (.inl ⟨rfl, hroom, by simp [offer, hr, hroom, Tally.add]⟩)
    · exact .inr (.inr ⟨rfl, Nat.le_of_not_lt hroom, by simp [offer, hr, hroom, Tally.add]⟩)

theorem queue_offer (c : Channel) (m : Measurement) :
    (c.offer m).1.queue = c.queue ++ (if (c.offer m).2 then [m] else []) := by
  obtain ⟨-, h⟩ | ⟨-, -, h⟩ | ⟨-, -, h⟩ := c.offer_cases m <;> rw [h] <;> simp

theorem receiving_offer (c : Channel) (m : Measurement) :
    (c.offer m).1.receiving = c.receiving := by
  obtain ⟨-, h⟩ | ⟨-, -, h⟩ | ⟨-, -, h⟩ := c.offer_cases m <;> rw [h]

theorem capacity_offer (c : Channel) (m : Measurement) :
    (c.offer m).1.capacity = c.capacity := by
  obtain ⟨-, h⟩ | ⟨-, -, h⟩ | ⟨-, -, h⟩ := c.offer_cases m <;> rw [h]

theorem senders_offer (c : Channel) (m : Measurement) :
    (c.offer m).1.senders = c.senders := by
  obtain ⟨-, h⟩ | ⟨-, -, h⟩ | ⟨-, -, h⟩ := c.offer_cases m <;> rw [h]

/-- An offer is taken exactly where there is a consumer and room. -/
theorem offer_snd (c : Channel) (m : Measurement) :
    (c.offer m).2 = true ↔ c.receiving = true ∧ c.queue.length < c.capacity := by
  obtain ⟨hr, h⟩ | ⟨hr, hroom, h⟩ | ⟨hr, hfull, h⟩ := c.offer_cases m
  · simp [h, hr]
  · simp [h, hr, hroom]
  · simp [h, hfull]

/-- An offer raises one of the three tallies, that of the accepted records if it is taken. -/
theorem tally_offer (c : Channel) (m : Measurement) :
    ∃ v, (c.offer m).1.tally = c.tally.add v ∧ ((c.offer m).2 = true ↔ v = .accepted) := by
  obtain ⟨-, h⟩ | ⟨-, -, h⟩ | ⟨-, -, h⟩ := c.offer_cases m
  · exact ⟨.closed, by simp [h]⟩
  · exact ⟨.accepted, by simp [h]⟩
  · exact ⟨.dropped, by simp [h]⟩

theorem length_queue_offer {c : Channel} {limit : Nat} (hc : c.capacity = limit)
    (h : c.queue.length ≤ limit) (m : Measurement) : (c.offer m).1.queue.length ≤ limit := by
  obtain ⟨-, ho⟩ | ⟨-, hroom, ho⟩ | ⟨-, -, ho⟩ := c.offer_cases m <;> rw [ho]
  · exact h
  · rw [List.length_append, List.length_singleton]
    omega
  · exact h

/-- Offers records one after the other. -/
def offerAll (c : Channel) (records : List Measurement) : Channel :=
  records.foldl (fun c m => (c.offer m).1) c

theorem offerAll_append (c : Channel) (records later : List Measurement) :
    c.offerAll (records ++ later) = (c.offerAll records).offerAll later := List.foldl_append

theorem offered_offer (c : Channel) (m : Measurement) :
    (c.offer m).1.tally.offered = c.tally.offered + 1 := by
  obtain ⟨-, h⟩ | ⟨-, -, h⟩ | ⟨-, -, h⟩ := c.offer_cases m <;> rw [h] <;> rfl

/-- Every offer is counted. -/
theorem offered_offerAll (c : Channel) (records : List Measurement) :
    (c.offerAll records).tally.offered = c.tally.offered + records.length := by
  induction records generalizing c with
  | nil => rfl
  | cons m records ih =>
    rw [show c.offerAll (m :: records) = (c.offer m).1.offerAll records from rfl, ih, offered_offer,
      List.length_cons]
    omega

/-! ## The tallies -/

/-- The tallies tell what became of the offers, and none was made in vain while the consumer was
there. -/
structure Counted (c : Channel) (offers : List (Measurement × Bool)) : Prop where
  offered : c.tally.offered = offers.length
  accepted : c.tally.accepted = (taken offers).length
  total : c.tally.offered = c.tally.accepted + c.tally.dropped + c.tally.closed
  closed : c.receiving = true → c.tally.closed = 0

theorem counted_create (capacity : Nat) : Counted (create capacity) [] :=
  ⟨rfl, rfl, rfl, fun _ => rfl⟩

theorem Counted.offer {c : Channel} {offers : List (Measurement × Bool)} (h : Counted c offers)
    (m : Measurement) : Counted (c.offer m).1 (offers ++ [(m, (c.offer m).2)]) := by
  obtain ⟨hoffered, haccepted, htotal, hclosed⟩ := h
  obtain ⟨hr, ho⟩ | ⟨hr, -, ho⟩ | ⟨hr, -, ho⟩ := c.offer_cases m <;> rw [ho]
  · refine ⟨?_, ?_, ?_, fun hr' => absurd hr' (by simp [hr])⟩
    · simp [Tally.add, hoffered]
    · simpa [Tally.add, taken_snoc] using haccepted
    · simp only [Tally.add]
      omega
  · refine ⟨?_, ?_, ?_, fun _ => hclosed hr⟩
    · simp [Tally.add, hoffered]
    · simp [Tally.add, taken_snoc, haccepted]
    · simp only [Tally.add]
      omega
  · refine ⟨?_, ?_, ?_, fun _ => hclosed hr⟩
    · simp [Tally.add, hoffered]
    · simpa [Tally.add, taken_snoc] using haccepted
    · simp only [Tally.add]
      omega

/-- What is no offer leaves the tallies as they are. -/
theorem Counted.of_tally {c c' : Channel} {offers : List (Measurement × Bool)}
    (h : Counted c offers) (ht : c'.tally = c.tally)
    (hr : c'.receiving = true → c.receiving = true) : Counted c' offers :=
  ⟨by rw [ht, h.offered], by rw [ht, h.accepted], by rw [ht, h.total],
    fun h' => by rw [ht, h.closed (hr h')]⟩

/-! ## Draining -/

/-- A drain takes the oldest record, or finds none. -/
theorem drain_cases (c : Channel) :
    (∃ m r, c.queue = m :: r ∧ c.drain = ({ c with queue := r }, .record m)) ∨
    (c.queue = [] ∧ c.drain = (c, if c.senders = 0 then .ended else .pending)) := by
  cases hq : c.queue with
  | nil => exact .inr ⟨rfl, by simp only [drain, hq]⟩
  | cons m r => exact .inl ⟨m, r, rfl, by simp only [drain, hq]⟩

theorem tryDrain_cases (c : Channel) :
    (∃ m r, c.queue = m :: r ∧ c.tryDrain = ({ c with queue := r }, some m)) ∨
    (c.queue = [] ∧ c.tryDrain = (c, none)) := by
  obtain ⟨m, r, hq, h⟩ | ⟨hq, h⟩ := c.drain_cases
  · exact .inl ⟨m, r, hq, by simp only [tryDrain, h]⟩
  · refine .inr ⟨hq, ?_⟩
    by_cases hs : c.senders = 0 <;> simp only [tryDrain, h, hs, ite_true, ite_false]

/-- The consumer is told the end exactly when no sender is left and nothing waits. -/
theorem drain_eq_ended (c : Channel) : c.drain.2 = .ended ↔ c.senders = 0 ∧ c.queue = [] := by
  obtain ⟨m, r, hq, h⟩ | ⟨hq, h⟩ := c.drain_cases
  · simp [h, hq]
  · by_cases hs : c.senders = 0 <;> simp [h, hq, hs]

end Channel

/-! ## Measured scopes -/

namespace Shot

/-- The record that the end of a scope offers. -/
def emitted (s : Shot) (ending : Ending) (now : Clock.Reading) : Option Measurement :=
  match ending with
  | .completed => some (s.finish now)
  | .panicked => some (s.fail.finish now)
  | .discarded => none

theorem close_of_emitted {s : Shot} {ending : Ending} {now : Clock.Reading} {m : Measurement}
    (h : s.emitted ending now = some m) (c : Channel) : s.close ending now c = (c.offer m).1 := by
  cases ending <;> cases h <;> rfl

theorem close_of_not_emitted {s : Shot} {ending : Ending} {now : Clock.Reading}
    (h : s.emitted ending now = none) (c : Channel) : s.close ending now c = c := by
  cases ending <;> cases h
  rfl

/-- The record of a body that ran in a scope of its own. -/
def measured {ε α : Type} (marker : String) (start stop : Clock.Reading)
    (body : ShotRecord → ShotRecord × Except ε α) : Measurement :=
  let shot := begin marker start
  match body shot.record with
  | (r, .ok _) => { shot with record := r }.finish stop
  | (r, .error _) => { shot with record := r }.fail.finish stop

/-- A body in a scope of its own offers one record, however it ends. -/
theorem around_fst {ε α : Type} (marker : String) (start stop : Clock.Reading) (c : Channel)
    (body : ShotRecord → ShotRecord × Except ε α) :
    (around marker start stop c body).1 = (c.offer (measured marker start stop body)).1 := by
  cases hb : body (begin marker start).record with
  | mk r result => cases result <;> simp only [around, measured, hb] <;> rfl

end Shot

/-! ## Traffic -/

structure Traffic where
  channel : Channel
  /-- The scopes that are open. -/
  scopes : List Shot
  /-- Every offer with its answer, in order. -/
  offers : List (Measurement × Bool)
  /-- What the consumer got, in order. -/
  drained : List Measurement

namespace Traffic

open Channel

inductive Event where
  | offer (m : Measurement)
  | openScope (marker : String) (now : Clock.Reading)
  /-- The end of an open scope whose record was edited before. -/
  | closeScope (i : Nat) (edit : ShotRecord → ShotRecord) (ending : Shot.Ending)
    (now : Clock.Reading)
  /-- A body that runs in a scope of its own. -/
  | measure (marker : String) (start stop : Clock.Reading)
    (body : ShotRecord → ShotRecord × Except String Unit)
  | drain
  | tryDrain
  | cloneSender
  | dropSender
  | dropReceiver

def start (capacity : Nat) : Traffic := ⟨.create capacity, [], [], []⟩

/-- The offers with one more, if a record is offered now. -/
def offersWith (t : Traffic) (record : Option Measurement) : List (Measurement × Bool) :=
  t.offers ++ (record.map fun m => (m, (t.channel.offer m).2)).toList

def step (t : Traffic) : Event → Traffic
  | .offer m =>
    if t.channel.senders = 0 then t
    else { t with channel := (t.channel.offer m).1, offers := t.offersWith (some m) }
  | .openScope marker now =>
    if t.channel.senders = 0 then t
    else { t with scopes := t.scopes ++ [.begin marker now] }
  | .closeScope i edit ending now =>
    match t.scopes[i]? with
    | none => t
    | some shot =>
      let shot := { shot with record := edit shot.record }
      { t with
        channel := shot.close ending now t.channel
        scopes := t.scopes.eraseIdx i
        offers := t.offersWith (shot.emitted ending now) }
  | .measure marker start stop body =>
    if t.channel.senders = 0 then t
    else
      { t with
        channel := (Shot.around marker start stop t.channel body).1
        offers := t.offersWith (some (Shot.measured marker start stop body)) }
  | .drain =>
    match t.channel.drain with
    | (channel, .record m) => { t with channel, drained := t.drained ++ [m] }
    | (channel, _) => { t with channel }
  | .tryDrain =>
    match t.channel.tryDrain with
    | (channel, some m) => { t with channel, drained := t.drained ++ [m] }
    | (channel, none) => { t with channel }
  | .cloneSender =>
    if t.channel.senders = 0 then t else { t with channel := t.channel.cloneSender }
  | .dropSender =>
    if t.channel.senders = 1 ∧ t.scopes ≠ [] then t
    else { t with channel := t.channel.dropSender }
  | .dropReceiver => { t with channel := t.channel.dropReceiver }

def run (t : Traffic) (es : List Event) : Traffic := es.foldl step t

/-- The queue is within its bound, the tallies are right, and nothing was lost or reordered on the
way to a consumer that is still there. -/
structure Balanced (limit : Nat) (t : Traffic) : Prop where
  capacity : t.channel.capacity = limit
  bounded : t.channel.queue.length ≤ limit
  counted : Counted t.channel t.offers
  order : t.channel.receiving = true → t.drained ++ t.channel.queue = taken t.offers

theorem balanced_start (capacity : Nat) : Balanced (max capacity 1) (start capacity) :=
  ⟨rfl, Nat.zero_le _, counted_create capacity, fun _ => rfl⟩

section Step
variable {limit : Nat} {t : Traffic} (h : Balanced limit t)

include h in
/-- The step of every event that offers a record. -/
theorem Balanced.offer (m : Measurement) (scopes : List Shot) :
    Balanced limit
      { t with channel := (t.channel.offer m).1, scopes, offers := t.offersWith (some m) } where
  capacity := (capacity_offer _ m).trans h.capacity
  bounded := length_queue_offer h.capacity h.bounded m
  counted := h.counted.offer m
  order hr := by
    have hr : t.channel.receiving = true := (receiving_offer _ m).symm.trans hr
    show t.drained ++ (t.channel.offer m).1.queue = taken (t.offers ++ [(m, (t.channel.offer m).2)])
    rw [queue_offer, taken_snoc, ← List.append_assoc, h.order hr]

include h in
/-- The step of a drain that finds a record. -/
theorem Balanced.take {m : Measurement} {r : List Measurement} (hq : t.channel.queue = m :: r) :
    Balanced limit
      { t with channel := { t.channel with queue := r }, drained := t.drained ++ [m] } where
  capacity := h.capacity
  bounded := by
    have hb := h.bounded
    rw [hq, List.length_cons] at hb
    exact Nat.le_of_succ_le hb
  counted := h.counted.of_tally rfl id
  order hr := by
    have ho := h.order hr
    rw [hq] at ho
    rw [List.append_assoc]
    exact ho

include h in
/-- The step of an event that only concerns the number of senders. -/
theorem Balanced.senders (senders : Nat) :
    Balanced limit { t with channel := { t.channel with senders } } :=
  ⟨h.capacity, h.bounded, h.counted.of_tally rfl id, h.order⟩

include h in
theorem Balanced.closeScope (i : Nat) (edit : ShotRecord → ShotRecord) (ending : Shot.Ending)
    (now : Clock.Reading) : Balanced limit (step t (.closeScope i edit ending now)) := by
  simp only [step]
  split
  · exact h
  · rename_i shot _
    cases hm : ({ shot with record := edit shot.record } : Shot).emitted ending now with
    | none =>
      rw [Shot.close_of_not_emitted hm]
      refine ⟨h.capacity, h.bounded, ?_, ?_⟩ <;> simp only [offersWith, Option.map_none,
        Option.toList_none, List.append_nil]
      · exact h.counted
      · exact h.order
    | some m =>
      rw [Shot.close_of_emitted hm]
      exact h.offer m _

include h in
theorem Balanced.drain : Balanced limit (step t .drain) := by
  obtain ⟨m, r, hq, hd⟩ | ⟨-, hd⟩ := t.channel.drain_cases
  · simp only [step, hd]
    exact h.take hq
  · by_cases hs : t.channel.senders = 0 <;> simp only [step, hd, hs, ite_true, ite_false] <;>
      exact h

include h in
theorem Balanced.tryDrain : Balanced limit (step t .tryDrain) := by
  obtain ⟨m, r, hq, hd⟩ | ⟨-, hd⟩ := t.channel.tryDrain_cases <;> simp only [step, hd]
  · exact h.take hq
  · exact h

include h in
theorem balanced_step (e : Event) : Balanced limit (step t e) := by
  cases e with
  | offer m =>
    simp only [step]
    split
    · exact h
    · exact h.offer m _
  | openScope marker now =>
    simp only [step]
    split
    · exact h
    · exact ⟨h.capacity, h.bounded, h.counted, h.order⟩
  | closeScope i edit ending now => exact h.closeScope i edit ending now
  | measure marker start stop body =>
    simp only [step, Shot.around_fst]
    split
    · exact h
    · exact h.offer _ _
  | drain => exact h.drain
  | tryDrain => exact h.tryDrain
  | cloneSender =>
    simp only [step]
    split
    · exact h
    · exact h.senders _
  | dropSender =>
    simp only [step]
    split
    · exact h
    · exact h.senders _
  | dropReceiver =>
    refine ⟨h.capacity, Nat.zero_le _, h.counted.of_tally rfl fun hr => ?_, fun hr => ?_⟩ <;>
      exact Bool.noConfusion hr

end Step

theorem balanced_run (es : List Event) {limit : Nat} {t : Traffic} (h : Balanced limit t) :
    Balanced limit (run t es) := by
  induction es generalizing t with
  | nil => exact h
  | cons e es ih => exact ih (balanced_step h e)

/-- **The channel never loses count.** After any traffic the queue is within its bound and every
offer was accepted, dropped or closed; while the consumer is there none was closed, and what it
drained and what waits are the accepted records in their order. An offer is taken exactly if the
consumer is there and the queue has room, and raises one tally of the three. A drain tells the end
exactly when no sender is left and nothing waits. -/
theorem balanced_everywhere (capacity : Nat) (es : List Event) :
    let t := run (start capacity) es
    t.channel.queue.length ≤ max capacity 1 ∧
    t.channel.tally.offered =
      t.channel.tally.accepted + t.channel.tally.dropped + t.channel.tally.closed ∧
    (t.channel.receiving = true →
      t.channel.tally.closed = 0 ∧
      t.channel.tally.accepted = t.drained.length + t.channel.queue.length ∧
      t.drained ++ t.channel.queue = taken t.offers) ∧
    (∀ m, ((t.channel.offer m).2 = true ↔
        t.channel.receiving = true ∧ t.channel.queue.length < max capacity 1) ∧
      ∃ v, (t.channel.offer m).1.tally = t.channel.tally.add v ∧
        ((t.channel.offer m).2 = true ↔ v = .accepted)) ∧
    (t.channel.drain.2 = .ended ↔ t.channel.senders = 0 ∧ t.channel.queue = []) := by
  intro t
  have h : Balanced (max capacity 1) t := balanced_run es (balanced_start capacity)
  refine ⟨h.bounded, h.counted.total, fun hr => ⟨h.counted.closed hr, ?_, h.order hr⟩,
    fun m => ⟨?_, t.channel.tally_offer m⟩, t.channel.drain_eq_ended⟩
  · rw [h.counted.accepted, ← h.order hr, List.length_append]
  · rw [t.channel.offer_snd m, h.capacity]

end Traffic

end Volley
