import Volley.Proofs.Phout.Line

/-!
# Times in the order of their lines

Times are ordered by their seconds and then by the nanoseconds within the second, where those of a
leap second come last. A line keeps whole milliseconds, in three digits. Within a leap second there
are four, of which the reader drops the last, so half past a leap second is read as some time in the
second before.

* `reread_le_iff`: when two times are read in their order.
* `lines_read_in_order`: the same for two measurements and their lines.
* `leapSecond_read_early`: a time within a leap second that is read as one before an earlier time.
-/
namespace Volley

/-- The order of times. -/
def Timestamp.NotAfter (t u : Timestamp) : Prop :=
  t.secs < u.secs ∨ t.secs = u.secs ∧ t.nanos ≤ u.nanos

instance (t u : Timestamp) : Decidable (t.NotAfter u) := by
  unfold Timestamp.NotAfter
  infer_instance

theorem Timestamp.NotAfter.millis {t u : Timestamp} (h : t.NotAfter u) (hsecs : t.secs = u.secs) :
    t.millis ≤ u.millis := by
  rcases h with hlt | ⟨-, hle⟩
  · omega
  · exact Nat.div_le_div_right hle

namespace Phout

/-- The second time lies within a leap second and is read as one before the first, which lies in the
same second before the leap. -/
def Overtaken (t u : Timestamp) : Prop :=
  t.secs = u.secs ∧ t.millis < 1000 ∧ 1000 ≤ u.millis ∧ u.millis / 10 < t.millis

/-- Three digits of a number keep its order unless only one of the two had more. -/
theorem keptMillis_le_iff {a b : Nat} (h : a ≤ b) :
    keptMillis a ≤ keptMillis b ↔ ¬ (a < 1000 ∧ 1000 ≤ b ∧ b / 10 < a) := by
  unfold keptMillis
  split <;> split <;> omega

theorem reread_le_iff {t u : Timestamp} (h : t.NotAfter u) :
    (reread t).NotAfter (reread u) ↔ ¬ Overtaken t u := by
  by_cases hsecs : t.secs = u.secs
  · have hkept := keptMillis_le_iff (h.millis hsecs)
    have hscaled : keptMillis t.millis * 1000000 ≤ keptMillis u.millis * 1000000 ↔
        keptMillis t.millis ≤ keptMillis u.millis := by omega
    simp only [Timestamp.NotAfter, reread, Overtaken, hsecs, Int.lt_irrefl, false_or, true_and,
      hscaled, hkept]
  · have hlt : t.secs < u.secs := h.resolve_right fun hboth => hsecs hboth.1
    simp [Timestamp.NotAfter, reread, Overtaken, hsecs, hlt]

/-- **Lines are read in the order of their times**, of whatever seconds: both lines are read, and the
earlier measurement is not read as the later one. The exception is a time within a leap second that
follows one of the same second: of its four digits three are read, and it may be overtaken. -/
theorem lines_read_in_order {m n : Measurement} (hm : Representable m.sentAt)
    (hn : Representable n.sentAt) (h : m.sentAt.NotAfter n.sentAt) :
    ∃ first second, parse (render m) = .ok first ∧ parse (render n) = .ok second ∧
      (first.sentAt.NotAfter second.sentAt ↔ ¬ Overtaken m.sentAt n.sentAt) := by
  have hread : ∀ {m : Measurement}, Representable m.sentAt →
      parse (render m) = .ok { recorded m with sentAt := reread m.sentAt } := fun hm =>
    parse_display_ends hm fun c hc => .inr (List.mem_singleton.mp hc)
  exact ⟨_, _, hread hm, hread hn, reread_le_iff h⟩

/-- A shot at a time. -/
def shotAt (secs : Int) (nanos : Nat) : Measurement where
  toFigures := Figures.initial
  sentAt := ⟨secs, nanos⟩
  tag := ""
  intervalReal := 0

/-- Over a leap second before 1970: the next second is not overtaken by anything. -/
theorem lines_read_in_order_overLeap :
    Representable (shotAt (-1) 1999999999).sentAt ∧ Representable (shotAt 0 0).sentAt ∧
      (shotAt (-1) 1999999999).sentAt.NotAfter (shotAt 0 0).sentAt ∧
      ∃ first second, parse (render (shotAt (-1) 1999999999)) = .ok first ∧
        parse (render (shotAt 0 0)) = .ok second ∧ first.sentAt.NotAfter second.sentAt := by
  have hleap : Representable (shotAt (-1) 1999999999).sentAt := ⟨by decide, by decide, by decide⟩
  have hnext : Representable (shotAt 0 0).sentAt := ⟨by decide, by decide, by decide⟩
  have hle : (shotAt (-1) 1999999999).sentAt.NotAfter (shotAt 0 0).sentAt := by decide
  obtain ⟨first, second, hfirst, hsecond, horder⟩ := lines_read_in_order hleap hnext hle
  refine ⟨hleap, hnext, hle, first, second, hfirst, hsecond, horder.mpr ?_⟩
  rintro ⟨hsecs, -⟩
  cases hsecs

/-- In the last second of a minute, and half a second into the leap second after it. -/
theorem leapSecond_read_early :
    (shotAt 59 900000000).sentAt.NotAfter (shotAt 59 1500000000).sentAt ∧
      (parse (render (shotAt 59 900000000))).toOption.map Measurement.sentAt =
        some ⟨59, 900000000⟩ ∧
      (parse (render (shotAt 59 1500000000))).toOption.map Measurement.sentAt =
        some ⟨59, 150000000⟩ ∧
      ¬ (⟨59, 900000000⟩ : Timestamp).NotAfter ⟨59, 150000000⟩ := by
  decide

end Phout

end Volley
