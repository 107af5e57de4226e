import Volley.App
import Volley.Proofs.Ammo.Reader
import Volley.Proofs.Gun.Unscripted
import Volley.Proofs.Phout.Line
import Volley.Proofs.Phout.Session

/-!
# What a run accounts for

A session is an executor and a writer at the two ends of one result channel. Its executor is watched
as any executor is, and seen from the channel it is a sender to the writer; so what is known of the
worker pool and of a writer with its senders holds of a session, side by side. What ties the two
together is the gun: one shot is one offer.

* `accounted_step`: the invariant, kept by every event.
* `accounts_for_every_missile`: what the report of a finished run tells.
-/
namespace Volley.Session

open Executor (Staffed Tracks Fed Yields)

/-- What happened in a session so far. -/
structure Ledger where
  pulled : List Missile
  fired : List (Missile × ShotEnd)
  /-- Every offer with its answer, in order. -/
  offers : List (Measurement × Bool)

/-- The executor's side of a session. -/
def watch (s : Session) (l : Ledger) : Executor.Watch AmmoReader Armed :=
  ⟨s.executor, l.pulled, l.fired⟩

/-- The writer's side of a session. -/
def transfer (s : Session) (l : Ledger) : Phout.Session :=
  ⟨s.writer, s.world.channel, s.files, l.offers⟩

/-- Both sides are in order; every shot was one offer and no skip; the last sender is there until
the counts are taken, and nothing is offered after that. -/
structure Accounted (path : String) (ammo : AmmoReader) (missiles : List Missile) (s : Session)
    (l : Ledger) : Prop where
  staffed : Staffed s.executor
  tracks : Tracks (s.watch l)
  fed : s.executor.stopped = false → ∃ calls, Fed AmmoReader.next ammo missiles (s.watch l) calls
  tallied : (s.transfer l).Tallied
  written : ∃ drained, Phout.Session.Accounted path (s.transfer l) drained
  unscripted : s.executor.gun.gun.IsUnscripted
  ready : s.executor.phase = .shooting → s.executor.gun.gun.IsReady
  offered : l.offers.length = l.fired.length
  returned : ∀ shot ∈ l.fired, ∃ r, shot.2 = .returned r ∧ r ≠ .ok .skipped
  sending : s.closing = none → s.world.channel.senders ≠ 0
  closed : ∀ tally now, s.closing = some (tally, now) →
    s.executor.isDone = true ∧ tally = s.world.channel.tally

/-! ## The start -/

/-- What a run starts with. -/
theorem start_cases {c : Config} {fs fs' : FileSystem} {w : World} {stopped : Bool} {s : Session}
    (h : start c fs w stopped = (.ok s, fs')) :
    ∃ kind format ammo writer gun started w',
      c.gunKind = .ok kind ∧ c.format = .ok format ∧
      AmmoReader.load fs c.ammoFile format c.loops = .ok ammo ∧
      Phout.Writer.create fs c.phoutFile = .ok (writer, fs') ∧
      Gun.build kind c.gunOptions = .ok gun ∧ w'.channel = .create c.resultsCapacity ∧
      s = ⟨c, .start c.workers ammo ⟨gun, w'⟩ stopped, writer, fs', started, none⟩ := by
  unfold start at h
  dsimp only at h
  split at h
  · cases h
  · rename_i hopened
    obtain ⟨kind, hk, hopened⟩ := ok_of_bind hopened
    obtain ⟨format, hf, hopened⟩ := ok_of_bind hopened
    obtain ⟨ammo, hl, hopened⟩ := ok_of_bind hopened
    obtain ⟨⟨writer, files⟩, hc, hopened⟩ := ok_of_bind hopened
    cases hopened
    split at h
    · cases h
    · rename_i gun hb
      obtain ⟨hs, rfl⟩ := Prod.mk.inj h
      exact ⟨_, format, _, _, gun, _, _, hk, hf, hl, hc, hb, rfl,
        (Except.ok.inj hs).symm⟩

theorem accounted_start {c : Config} {fs fs' : FileSystem} {w : World} {stopped : Bool}
    {s : Session} (h : start c fs w stopped = (.ok s, fs')) {kind : GunKind}
    (hkind : c.gunKind = .ok kind) (hk : kind ∈ Gun.unscripted) (missiles : List Missile) :
    Accounted c.phoutFile s.executor.ammo missiles s ⟨[], [], []⟩ := by
  obtain ⟨kind', format, ammo, writer, gun, started, w', hkind', -, -, hw, hb, hchannel, rfl⟩ :=
    start_cases h
  obtain rfl : kind = kind' := Except.ok.inj (hkind.symm.trans hkind')
  have htransfer : transfer ⟨c, .start c.workers ammo ⟨gun, w'⟩ stopped, writer, fs', started, none⟩
      ⟨[], [], []⟩ = Phout.Session.start writer fs' c.resultsCapacity :=
    congrArg (Phout.Session.mk writer · fs' []) hchannel
  refine ⟨Executor.staffed_start _ _ _ _, Executor.tracks_start _ _ _ _,
    fun _ => ⟨0, Executor.fed_start _ _ _ _ _ _⟩, ?_, ⟨[], ?_⟩, Gun.isUnscripted_build hk hb, nofun,
    rfl, nofun, fun _ => ?_, nofun⟩
  · rw [htransfer]
    exact Phout.Session.tallied_start hw _
  · rw [htransfer]
    exact Phout.Session.accounted_start hw _
  · show w'.channel.senders ≠ 0
    rw [hchannel]
    exact Nat.one_ne_zero

/-! ## The executor -/

/-- What an event of the executor does to the channel: a shot is one offer, and nothing else is
seen there. -/
theorem armed_step {e : Executor AmmoReader Armed} (hstaff : Staffed e)
    (hun : e.gun.gun.IsUnscripted) (hready : e.phase = .shooting → e.gun.gun.IsReady)
    (fs : FileSystem) (event : RunEvent) :
    (e.step AmmoReader.next (Armed.ops fs) event).gun.gun.IsUnscripted ∧
    ((e.step AmmoReader.next (Armed.ops fs) event).phase = .shooting →
      (e.step AmmoReader.next (Armed.ops fs) event).gun.gun.IsReady) ∧
    ((e.shot? (Armed.ops fs) event = none ∧
      (e.step AmmoReader.next (Armed.ops fs) event).gun.world.channel = e.gun.world.channel) ∨
    (e.phase = .shooting ∧ ∃ m r record, e.shot? (Armed.ops fs) event = some (m, .returned r) ∧
      r ≠ .ok .skipped ∧ (e.step AmmoReader.next (Armed.ops fs) event).gun.world.channel =
        (e.gun.world.channel.offer record).1)) := by
  cases event with
  | stop => exact ⟨hun, hready, .inl ⟨rfl, rfl⟩⟩
  | advance =>
    obtain ⟨u, gun, -, hs, ha⟩ | ⟨a, gun, -, hs, ha⟩ | ⟨r, gun, -, -, ht, ha⟩ | ha :=
      e.advance_cases (Armed.ops fs) <;> rw [Executor.step, ha]
    · obtain ⟨hchannel, hun', hready'⟩ := Gun.setup_unscripted hun fs e.gun.world
      obtain ⟨hok, rfl⟩ := Prod.mk.inj hs
      exact ⟨hun', fun _ => hready' hok, .inl ⟨rfl, hchannel⟩⟩
    · obtain ⟨hchannel, hun', -⟩ := Gun.setup_unscripted hun fs e.gun.world
      obtain ⟨-, rfl⟩ := Prod.mk.inj hs
      exact ⟨hun', RunPhase.noConfusion, .inl ⟨rfl, hchannel⟩⟩
    · obtain ⟨hchannel, hun'⟩ := Gun.teardown_unscripted hun e.gun.world
      obtain ⟨-, rfl⟩ := Prod.mk.inj ht
      exact ⟨hun', RunPhase.noConfusion, .inl ⟨rfl, hchannel⟩⟩
    · exact ⟨hun, hready, .inl ⟨rfl, rfl⟩⟩
  | worker i =>
    obtain ⟨hw, -, hs⟩ | ⟨before, after, e', hb, hworks, hw⟩ :=
      e.work_cases AmmoReader.next (Armed.ops fs) i <;> rw [Executor.step, hw]
    · exact ⟨hun, hready, .inl ⟨hs, rfl⟩⟩
    · have hphase : (e'.move i after).phase = e.phase := hworks.workers.2.2.1
      obtain ⟨hs, hgun⟩ | ⟨m, rfl, hs, hgun⟩ := hworks.gun
      · have hgun : (e'.move i after).gun = e.gun := hgun
        rw [hgun, hphase]
        exact ⟨hun, hready, .inl ⟨hs, rfl⟩⟩
      · have hshooting : e.phase = .shooting := hstaff.shooting_of_worker hb rfl
        have hgun : (e'.move i after).gun = ((Armed.ops fs).shoot e.gun m).2 := hgun
        rw [hgun, hphase]
        obtain ⟨⟨record, hoffer⟩, hskip, hready'⟩ :=
          Gun.shoot_ready (hready hshooting) m e.gun.world
        exact ⟨hready'.isUnscripted, fun _ => hready',
          .inr ⟨hshooting, m, _, record, hs, hskip, hoffer⟩⟩

section Step
variable {path : String} {ammo : AmmoReader} {missiles : List Missile} {s : Session} {l : Ledger}
  (h : Accounted path ammo missiles s l)

include h in
theorem Accounted.executor (hy : Yields AmmoReader.next ammo missiles) (event : RunEvent) :
    ∃ l', Accounted path ammo missiles (s.step (.executor event)) l' := by
  obtain ⟨hun, hready, heffect⟩ := armed_step h.staffed h.unscripted h.ready s.files event
  have hstaff := Executor.staffed_step AmmoReader.next (Armed.ops s.files) h.staffed event
  have htracks := Executor.tracks_step AmmoReader.next (Armed.ops s.files) h.staffed h.tracks event
  -- A shot that panics is none of these.
  have hcalm : ∀ m, s.executor.shot? (Armed.ops s.files) event ≠ some (m, .panicked) := by
    intro m hm
    obtain ⟨hnone, -⟩ | ⟨-, m', r, -, hshot, -⟩ := heffect
    · cases hnone.symm.trans hm
    · cases hshot.symm.trans hm
  have hfed : (s.step (.executor event)).executor.stopped = false → ∃ calls,
      Fed AmmoReader.next ammo missiles
        ((s.watch l).step AmmoReader.next (Armed.ops s.files) event) calls := by
    intro hs
    have hnext : event ≠ .stop := by
      rintro rfl
      cases hs
    have hs : s.executor.stopped = false :=
      (Executor.stopped_step AmmoReader.next (Armed.ops s.files) _ hnext).symm.trans hs
    obtain ⟨calls, hfed⟩ := h.fed hs
    exact Executor.fed_step hy hfed event hs hcalm
  let pulled := l.pulled ++ (s.executor.pull? AmmoReader.next event).toList
  let fired := l.fired ++ (s.executor.shot? (Armed.ops s.files) event).toList
  obtain ⟨hnone, hchannel⟩ | ⟨hshooting, m, r, record, hshot, hr, hchannel⟩ := heffect
  · have hfired : fired = l.fired := by
      simp only [fired, hnone, Option.toList_none, List.append_nil]
    have htransfer : (s.step (.executor event)).transfer ⟨pulled, fired, l.offers⟩ = s.transfer l :=
      congrArg (Phout.Session.mk s.writer · s.files l.offers) hchannel
    refine ⟨⟨pulled, fired, l.offers⟩, hstaff, htracks, hfed, ?_, ?_, hun, hready, ?_, ?_,
      fun hc => ?_, fun tally now hc => ?_⟩
    · rw [htransfer]
      exact h.tallied
    · rw [htransfer]
      exact h.written
    · rw [hfired]
      exact h.offered
    · rw [hfired]
      exact h.returned
    · exact fun hz => h.sending hc ((congrArg Channel.senders hchannel).symm.trans hz)
    · obtain ⟨hd, ht⟩ := h.closed tally now hc
      exact ⟨Executor.isDone_step _ _ h.staffed hd event,
        ht.trans (congrArg Channel.tally hchannel).symm⟩
  · have hclosing : s.closing = none := by
      cases hc : s.closing with
      | none => rfl
      | some counts =>
        obtain ⟨r, hr⟩ := s.executor.isDone_iff.mp (h.closed counts.1 counts.2 hc).1
        cases hshooting.symm.trans hr
    have hsending := h.sending hclosing
    let offers := l.offers ++ [(record, (s.world.channel.offer record).2)]
    have hfired : fired = l.fired ++ [(m, .returned r)] := by
      simp only [fired, hshot, Option.toList_some]
    have htransfer : (s.step (.executor event)).transfer ⟨pulled, fired, offers⟩ =
        (s.transfer l).step (.offer record) :=
      (congrArg (Phout.Session.mk s.writer · s.files offers) hchannel).trans (if_neg hsending).symm
    refine ⟨⟨pulled, fired, offers⟩, hstaff, htracks, hfed, ?_, ?_, hun, hready, ?_, ?_,
      fun _ hz => hsending ?_, fun tally now hc => ?_⟩
    · rw [htransfer]
      exact h.tallied.offer record
    · rw [htransfer]
      exact h.written.imp fun _ hw => hw.offer record
    · simp only [offers, hfired, List.length_append, h.offered, List.length_singleton]
    · intro shot hs
      rw [hfired] at hs
      rcases List.mem_append.mp hs with hs | hs
      · exact h.returned shot hs
      · rw [List.mem_singleton.mp hs]
        exact ⟨r, rfl, hr⟩
    · rw [← Channel.senders_offer s.world.channel record]
      exact (congrArg Channel.senders hchannel).symm.trans hz
    · cases hclosing.symm.trans hc

/-! ## The writer and the end -/

include h in
theorem Accounted.writer : Accounted path ammo missiles (s.step .writer) l := by
  obtain ⟨hsenders, htally⟩ := s.writer.channel_step s.world.channel s.files
  have htallied := h.tallied.write
  have hwritten := h.written.imp fun _ hw => hw.write
  unfold Phout.Session.step at htallied hwritten
  unfold step
  dsimp only [transfer] at htallied hwritten ⊢
  generalize s.writer.step s.world.channel s.files = p at hsenders htally htallied hwritten ⊢
  obtain ⟨writer, channel, files⟩ := p
  refine ⟨⟨h.staffed.size, h.staffed.ready, h.staffed.shooting, h.staffed.done, h.staffed.torn⟩,
    ⟨h.tracks.pulled, h.tracks.fired, h.tracks.counted⟩, fun hs => ?_, htallied, ?_,
    h.unscripted, h.ready, h.offered, h.returned,
    fun hc hz => h.sending hc (hsenders.symm.trans hz), fun tally now hc => ?_⟩
  · exact (h.fed hs).imp fun _ hfed => ⟨hfed.ammo, hfed.pulled, hfed.empty⟩
  · obtain ⟨drained, hw | ⟨m, hw⟩⟩ := hwritten
    · exact ⟨drained, hw⟩
    · exact ⟨drained ++ [m], hw⟩
  · obtain ⟨hd, ht⟩ := h.closed tally now hc
    exact ⟨hd, ht.trans htally.symm⟩

include h in
theorem Accounted.close : Accounted path ammo missiles (s.step .close) l := by
  unfold step Session.close
  dsimp only
  split
  · rename_i hc
    refine ⟨⟨h.staffed.size, h.staffed.ready, h.staffed.shooting, h.staffed.done, h.staffed.torn⟩,
      ⟨h.tracks.pulled, h.tracks.fired, h.tracks.counted⟩, fun hs => ?_,
      Phout.Session.tallied_step h.tallied .dropSender, h.written.imp fun _ hw => hw.dropSender,
      h.unscripted, h.ready, h.offered, h.returned, nofun, fun tally now ht => ?_⟩
    · exact (h.fed hs).imp fun _ hfed => ⟨hfed.ammo, hfed.pulled, hfed.empty⟩
    · obtain ⟨rfl, -⟩ := Prod.mk.inj (Option.some.inj ht)
      rw [Bool.and_eq_true] at hc
      exact ⟨hc.1, rfl⟩
  · exact h

include h in
theorem accounted_step (hy : Yields AmmoReader.next ammo missiles) (event : SessionEvent) :
    ∃ l', Accounted path ammo missiles (s.step event) l' := by
  cases event with
  | executor event => exact h.executor hy event
  | writer => exact ⟨l, h.writer⟩
  | close => exact ⟨l, h.close⟩

end Step

theorem accounted_play (events : List SessionEvent) {path : String} {ammo : AmmoReader}
    {missiles : List Missile} {s : Session} {l : Ledger} (hy : Yields AmmoReader.next ammo missiles)
    (h : Accounted path ammo missiles s l) :
    ∃ l', Accounted path ammo missiles (s.play events) l' := by
  induction events generalizing s l with
  | nil => exact ⟨l, h⟩
  | cons event events ih =>
    obtain ⟨l', h'⟩ := accounted_step h hy event
    exact ih h'

/-! ## The report -/

/-- A run is reported when the executor, the counts and the writer are done. -/
theorem report_cases {s : Session} {r : RunReport} (h : s.report = .ok r) :
    ∃ tally now, (∃ u, s.executor.phase = .done (.ok u)) ∧ s.closing = some (tally, now) ∧
      s.writer.phase = .done ∧ r.shots = s.executor.tally ∧ r.channel = tally ∧
      r.writer = s.writer.tally ∧ r.interrupted = s.executor.stopped := by
  unfold report at h
  split at h
  · rename_i hphase hclosing hwriter
    cases hk : s.config.gunKind with
    | error e =>
      rw [hk] at h
      cases h
    | ok kind =>
      rw [hk] at h
      cases h
      exact ⟨_, _, ⟨_, hphase⟩, hclosing, hwriter, rfl, rfl, rfl, rfl⟩
  · cases h
  · cases h

theorem stopped_play (events : List SessionEvent) (hstop : .executor .stop ∉ events)
    (s : Session) : (s.play events).executor.stopped = s.executor.stopped := by
  induction events generalizing s with
  | nil => rfl
  | cons event events ih =>
    refine (ih (fun hm => hstop (List.mem_cons_of_mem _ hm)) (s.step event)).trans ?_
    cases event with
    | executor event =>
      refine Executor.stopped_step _ _ _ fun he => hstop ?_
      rw [he]
      exact List.mem_cons_self
    | writer => rfl
    | close =>
      unfold step close
      dsimp only
      split <;> rfl

section Report
variable {path : String} {ammo : AmmoReader} {missiles : List Missile} {s : Session} {l : Ledger}
  {r : RunReport} (h : Accounted path ammo missiles s l) (hr : s.report = .ok r)

include h hr in
/-- The shots of a run that was not stopped. -/
theorem Accounted.shots (hstop : s.executor.stopped = false) :
    r.shots.shots = missiles.length ∧ r.shots.skipped = 0 ∧
      r.shots.measured + r.shots.failed = r.shots.shots ∧ l.offers.length = r.shots.shots := by
  obtain ⟨-, -, ⟨u, hphase⟩, -, -, hshots, -⟩ := report_cases hr
  have hgone : s.executor.allGone = true := h.staffed.done _ hphase
  have hsome : s.executor.workers ≠ [] := by
    have hsize := h.staffed.size
    rw [← h.staffed.torn u hphase] at hsize
    exact List.ne_nil_of_length_pos hsize
  obtain ⟨calls, hfed⟩ := h.fed hstop
  have hpulled : l.pulled = missiles := hfed.pulled_eq hsome hgone
  have hfired : l.fired.length = missiles.length := by
    have hlength := (h.tracks.fired_perm hgone).length_eq
    rwa [List.length_map, show (s.watch l).pulled = missiles from hpulled] at hlength
  have htally : ∀ o, r.shots.tallyOf o = l.fired.countP fun shot => shot.2.outcome? == some o := by
    rw [hshots]
    exact h.tracks.tallyOf_eq hgone
  have hcalm : ∀ shot ∈ l.fired, shot.2 ≠ .panicked := by
    intro shot hs hpanic
    obtain ⟨r, hret, -⟩ := h.returned shot hs
    cases hpanic.symm.trans hret
  have hskipped : r.shots.tallyOf .skipped = 0 := by
    rw [htally, List.countP_eq_zero]
    intro shot hs
    obtain ⟨r, hret, hne⟩ := h.returned shot hs
    rw [hret]
    rcases r with e | (_ | _)
    · simp [ShotEnd.outcome?, Outcome.ofResult]
    · simp [ShotEnd.outcome?, Outcome.ofResult]
    · exact absurd rfl hne
  have hall : r.shots.shots = missiles.length := by
    rw [hshots, ← hpulled]
    exact h.tracks.pulled
  have houtcomes := Executor.length_eq_outcomes l.fired hcalm
  rw [← htally, ← htally, ← htally, hskipped, hfired, ← hall] at houtcomes
  refine ⟨hall, hskipped, houtcomes.symm, ?_⟩
  rw [h.offered, hfired, hall]

include h hr in
/-- What became of the records, whether the run was stopped or not. -/
theorem Accounted.records :
    r.channel.offered = l.offers.length ∧
      r.channel.offered = r.channel.accepted + r.channel.dropped ∧ r.channel.closed = 0 ∧
      r.writer.written = r.channel.accepted ∧
      ∃ written : List Measurement, written.length = r.writer.written ∧
        s.files.lookup path = .ok (.file (written.flatMap Phout.Writer.lineBytes)) := by
  obtain ⟨tally, now, -, hclosing, hdone, -, hchannel, hwriter, -⟩ := report_cases hr
  obtain ⟨drained, haccounted⟩ := h.written
  have htally : r.channel = s.world.channel.tally := hchannel.trans (h.closed tally now hclosing).2
  obtain ⟨hoffered, haccepted, htotal, hclosed⟩ := h.tallied.counted
  have hclosed := hclosed h.tallied.receiving
  have hempty : s.world.channel.queue = [] := (haccounted.ended hdone).2
  have hwritten : s.writer.tally.written = (s.transfer l).accepted.length := by
    have := h.tallied.written
    rwa [show (s.transfer l).channel.queue = [] from hempty, List.length_nil, Nat.add_zero] at this
  rw [htally, hwriter]
  refine ⟨hoffered, ?_, hclosed, hwritten.trans haccepted.symm, (s.transfer l).accepted,
    hwritten.symm, Phout.Session.written_of_done haccounted hdone⟩
  rw [hclosed, Nat.add_zero] at htotal
  exact htotal

end Report

theorem missiles_ammo {c : Config} {fs fs' : FileSystem} {w : World} {stopped : Bool} {s : Session}
    (h : start c fs w stopped = (.ok s, fs')) {format : AmmoFormat}
    (hformat : c.format = .ok format) {text : List Char}
    (htext : fs.readText c.ammoFile = .ok text) {passes : Nat}
    (hloops : c.loops = some passes) :
    Yields AmmoReader.next s.executor.ammo
      (List.replicate passes (format.missiles text)).flatten := by
  obtain ⟨kind, format', ammo, writer, gun, started, w', -, hformat', hload, -, -, -, rfl⟩ :=
    start_cases h
  obtain rfl : format = format' := Except.ok.inj (hformat.symm.trans hformat')
  obtain ⟨text', htext', hmissiles, hl, hpass, hindex⟩ := AmmoReader.load_cases hload
  obtain rfl : text = text' := Except.ok.inj (htext.symm.trans htext')
  rw [← hmissiles]
  exact AmmoReader.yields_passes (hl.trans hloops) hpass hindex

/-- **A finished run accounts for every missile.** For a gun that runs no script, whatever the order
of the events: if the run is reported and the stop signal was not raised, each missile was one shot
in every pass, no shot was skipped, and each offered one record. A record was accepted or dropped,
an accepted one is one line of the file, and the file has no others. -/
theorem accounts_for_every_missile {c : Config} {fs fs' : FileSystem} {w : World} {s : Session}
    (hstart : start c fs w false = (.ok s, fs')) {kind : GunKind} (hkind : c.gunKind = .ok kind)
    (hunscripted : kind ∈ Gun.unscripted) {passes : Nat} (hloops : c.loops = some passes)
    {format : AmmoFormat} (hformat : c.format = .ok format) {text : List Char}
    (htext : fs.readText c.ammoFile = .ok text) (events : List SessionEvent)
    (hstop : .executor .stop ∉ events) {r : RunReport} (hr : (s.play events).report = .ok r) :
    r.shots.shots = passes * (format.missiles text).length ∧ r.shots.skipped = 0 ∧
      r.shots.measured + r.shots.failed = r.shots.shots ∧ r.shots.shots = r.channel.offered ∧
      r.channel.offered = r.channel.accepted + r.channel.dropped ∧ r.channel.closed = 0 ∧
      r.writer.written = r.channel.accepted ∧ r.writer.written ≤ r.shots.shots ∧
      r.lost = r.shots.shots - r.writer.written ∧ r.interrupted = false ∧
      ∃ lines : List (List UInt8), lines.length = r.writer.written ∧ (∀ line ∈ lines, 10 ∉ line) ∧
        (s.play events).files.lookup c.phoutFile = .ok (.file (lines.flatMap (· ++ [10]))) := by
  obtain ⟨l, h⟩ := accounted_play events (missiles_ammo hstart hformat htext hloops)
    (accounted_start hstart hkind hunscripted _)
  have hunstopped : (s.play events).executor.stopped = false := by
    obtain ⟨-, -, ammo, writer, gun, started, w', -, -, -, -, -, -, rfl⟩ := start_cases hstart
    exact stopped_play events hstop _
  obtain ⟨-, -, -, -, -, -, -, -, hinterrupted⟩ := report_cases hr
  obtain ⟨hall, hskipped, houtcomes, hoffers⟩ := h.shots hr hunstopped
  obtain ⟨hoffered, htotal, hclosed, hwritten, records, hlength, hfile⟩ := h.records hr
  have hsame : r.shots.shots = r.channel.offered := hoffers.symm.trans hoffered.symm
  refine ⟨?_, hskipped, houtcomes, hsame, htotal, hclosed, hwritten, by omega, ?_,
    hinterrupted.trans hunstopped, records.map Phout.lineBody, ?_, ?_, ?_⟩
  · rw [hall, List.length_flatten, List.map_replicate, List.sum_replicate_nat]
  · rw [RunReport.lost, Tally.lost]
    omega
  · rw [List.length_map, hlength]
  · intro line hline
    obtain ⟨m, -, rfl⟩ := List.mem_map.mp hline
    exact Phout.newline_notMem_lineBody m
  · rw [hfile, List.flatMap_map, funext Phout.lineBytes_eq]

/-- Two passes over two missiles with the log gun, two workers, and room for one record. -/
def sampleConfig : Config :=
  { Config.initial 2 with
    loops := some 2
    resultsCapacity := 1
    gunOptions := .ofList [("param", "x")] }

def sampleFiles : FileSystem := .ofList [("ammo.txt", .file (Text.Utf8.bytesOf "a\nb\n"))]

def sampleWorld : World := .quiet 1

/-- The writer takes a record after the first two shots and comes back when the workers are gone, so
of either pass the second record finds no room. -/
def twoPasses : List SessionEvent :=
  .executor .advance :: (List.replicate 3 [0, 1]).flatten.map (.executor ∘ .worker) ++
    List.replicate 2 .writer ++ (List.replicate 9 [1, 0]).flatten.map (.executor ∘ .worker) ++
    [.executor .advance, .close] ++ List.replicate 4 .writer

theorem accounts_for_every_missile_twoPasses :
    ∃ s fs' r, (start sampleConfig sampleFiles sampleWorld false = (.ok s, fs') ∧
        sampleConfig.gunKind = .ok .log ∧ GunKind.log ∈ Gun.unscripted ∧
        sampleConfig.loops = some 2 ∧ sampleConfig.format = .ok .line ∧
        sampleFiles.readText "ammo.txt" = .ok ['a', '\n', 'b', '\n'] ∧
        .executor .stop ∉ twoPasses ∧ (s.play twoPasses).report = .ok r) ∧
      (r.shots = ⟨4, 4, 0, 0⟩ ∧ r.channel = ⟨4, 2, 2, 0⟩ ∧ r.writer.written = 2) ∧
      r.shots.shots = 2 * (AmmoFormat.line.missiles ['a', '\n', 'b', '\n']).length ∧
      r.lost = r.shots.shots - r.writer.written ∧
      ∃ lines : List (List UInt8), lines.length = r.writer.written ∧ (∀ line ∈ lines, 10 ∉ line) ∧
        (s.play twoPasses).files.lookup "phout.txt" = .ok (.file (lines.flatMap (· ++ [10]))) := by
  have hrun : ((start sampleConfig sampleFiles sampleWorld false).1.toOption.bind fun s =>
      (s.play twoPasses).report.toOption) =
        some ⟨.log, ⟨0, 0⟩, ⟨4, 4, 0, 0⟩, ⟨4, 2, 2, 0⟩, ⟨2, 0⟩, "phout.txt", false⟩ := by
    decide +kernel
  have htext : (sampleFiles.readText "ammo.txt").toOption = some ['a', '\n', 'b', '\n'] := by
    decide +kernel
  have hkind : sampleConfig.gunKind = .ok .log := ok_of_toOption (by decide +kernel)
  have hformat : sampleConfig.format = .ok .line := ok_of_toOption (by decide +kernel)
  obtain ⟨s, hs, hreport⟩ := Option.bind_eq_some_iff.mp hrun
  have hstart : start sampleConfig sampleFiles sampleWorld false =
      (.ok s, (start sampleConfig sampleFiles sampleWorld false).2) :=
    Prod.ext (ok_of_toOption hs) rfl
  obtain ⟨hall, -, -, -, -, -, -, -, hlost, -, hfile⟩ := accounts_for_every_missile hstart hkind
    (by decide) rfl hformat (ok_of_toOption htext) twoPasses (by decide) (ok_of_toOption hreport)
  exact ⟨s, _, _, ⟨hstart, hkind, by decide, rfl, hformat, ok_of_toOption htext, by decide,
    ok_of_toOption hreport⟩,
    ⟨rfl, rfl, rfl⟩, hall, hlost, hfile⟩

end Volley.Session
