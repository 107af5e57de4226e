import Volley.Gun.Basic

/-!
# Guns that run no script

The log, HTTP and SQL guns offer exactly one record for every shot once they are set up, whatever
the target does, and never skip one (`shoot_ready`). Nothing else that they do is seen on the
channel.
-/
namespace Volley

namespace SqlGun

/-- A setup offers nothing, and if it succeeds it leaves a pool, be it that of an earlier setup. -/
theorem setup_spec (g : SqlGun) (w : World) :
    (g.setup w).2.2.channel = w.channel ∧
      ((g.setup w).1 = .ok ⟨⟩ → (g.setup w).2.1.pool.isSome = true) := by
  unfold setup
  cases hp : g.pool with
  | some pool => exact ⟨rfl, fun _ => by rw [hp]; rfl⟩
  | none =>
    have hchannel : (w.connect g.address g.poolSize g.timeout).2.channel = w.channel := rfl
    dsimp only
    generalize w.connect g.address g.poolSize g.timeout = connected at hchannel
    obtain ⟨e | pool, w'⟩ := connected
    · exact ⟨hchannel, nofun⟩
    · exact ⟨hchannel, fun _ => rfl⟩

theorem channel_teardown (g : SqlGun) (w : World) : (g.teardown w).channel = w.channel := by
  unfold teardown
  cases g.pool <;> rfl

end SqlGun

namespace Gun

/-- The kinds that run no script. -/
def unscripted : List GunKind := [.log, .http, .sql]

/-- A gun of such a kind. -/
def IsUnscripted : Gun → Prop
  | script _ => False
  | _ => True

/-- Such a gun after its setup. -/
def IsReady : Gun → Prop
  | log _ | http _ => True
  | sql g => g.pool.isSome = true
  | script _ => False

theorem IsReady.isUnscripted {g : Gun} (h : g.IsReady) : g.IsUnscripted := by
  cases g with
  | script g => exact h.elim
  | log g => trivial
  | http g => trivial
  | sql g => trivial

theorem isUnscripted_build {kind : GunKind} {o : Options} {g : Gun} (hk : kind ∈ unscripted)
    (h : build kind o = .ok g) : g.IsUnscripted := by
  have hmap : ∀ {α : Type} {r : Except Abort α} {f : α → Gun}, r.map f = .ok g →
      ∃ a, g = f a := by
    intro α r f hr
    cases r with
    | error e => cases hr
    | ok a => exact ⟨a, (Except.ok.inj hr).symm⟩
  simp only [unscripted, List.mem_cons, List.not_mem_nil, or_false] at hk
  rcases hk with rfl | rfl | rfl <;> obtain ⟨a, rfl⟩ := hmap h <;> trivial

/-- Setup offers nothing, and makes the gun ready unless it fails. -/
theorem setup_unscripted {g : Gun} (hg : g.IsUnscripted) (fs : FileSystem) (w : World) :
    (g.setup fs w).2.2.channel = w.channel ∧ (g.setup fs w).2.1.IsUnscripted ∧
      ((g.setup fs w).1 = .ok ⟨⟩ → (g.setup fs w).2.1.IsReady) := by
  cases g with
  | script g => exact hg.elim
  | log g => exact ⟨rfl, trivial, fun _ => trivial⟩
  | http g => exact ⟨rfl, trivial, fun _ => trivial⟩
  | sql g =>
    obtain ⟨hchannel, hpool⟩ := g.setup_spec w
    refine ⟨hchannel, trivial, fun hok => hpool ?_⟩
    have hok : Abort.lift (g.setup w).1 = .ok ⟨⟩ := hok
    cases hs : (g.setup w).1 with
    | ok u => rfl
    | error f =>
      rw [hs] at hok
      cases hok

theorem teardown_unscripted {g : Gun} (hg : g.IsUnscripted) (w : World) :
    (g.teardown w).2.2.channel = w.channel ∧ (g.teardown w).2.1.IsUnscripted := by
  cases g with
  | script g => exact hg.elim
  | log g => exact ⟨rfl, trivial⟩
  | http g => exact ⟨rfl, trivial⟩
  | sql g => exact ⟨g.channel_teardown w, trivial⟩

/-- What an HTTP shot comes to is no skip. -/
theorem recordExchange_ne_skipped (r : ShotRecord) (answer : Except Http.Failure Http.Response) :
    (HttpGun.recordExchange r answer).2 ≠ .ok .skipped := by
  have hfailure : ∀ r e, (HttpGun.recordFailure r e).2 ≠ .ok .skipped := by
    intro r e
    unfold HttpGun.recordFailure
    split
    · exact nofun
    · split <;> exact nofun
  unfold HttpGun.recordExchange
  split
  · exact hfailure _ _
  · dsimp only
    split
    · exact nofun
    · exact hfailure _ _

/-- Every shot of a ready gun offers one record, and none is skipped. -/
theorem shoot_ready {g : Gun} (hg : g.IsReady) (m : Missile) (w : World) :
    (∃ record, (g.shoot m w).2.2.channel = (w.channel.offer record).1) ∧
      (g.shoot m w).1 ≠ .ok .skipped ∧ (g.shoot m w).2.1.IsReady := by
  cases g with
  | script g => exact hg.elim
  | log g => exact ⟨⟨_, rfl⟩, nofun, trivial⟩
  | http g => exact ⟨⟨_, rfl⟩, recordExchange_ne_skipped _ _, trivial⟩
  | sql g =>
    have hg : g.pool.isSome = true := hg
    obtain ⟨pool, hp⟩ := Option.isSome_iff_exists.mp hg
    simp only [shoot, SqlGun.shoot, hp]
    exact ⟨⟨_, rfl⟩, nofun, hg⟩

end Gun

end Volley
