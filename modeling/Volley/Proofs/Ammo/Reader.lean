import Volley.Ammo.Reader
import Volley.Proofs.Executor.Pool

/-!
# Ammunition readers as supplies

A reader with an end hands out its missiles as many times as it has passes, and then none, however
often it is asked (`yields_passes`).
-/
namespace Volley.AmmoReader

variable {passes : Nat} {r : AmmoReader}

/-- The missiles that a reader of so many passes has still to hand out. -/
def coming (passes : Nat) (r : AmmoReader) : List Missile :=
  if passes ≤ r.pass then []
  else r.missiles.drop r.index ++ (List.replicate (passes - r.pass - 1) r.missiles).flatten

/-- The reader ends after so many passes and stands inside its list. -/
structure Ends (passes : Nat) (r : AmmoReader) : Prop where
  loops : r.loops = some passes
  inside : r.index ≤ r.missiles.length

theorem coming_of_spent (h : passes ≤ r.pass) : coming passes r = [] := if_pos h

theorem length_pos (r : AmmoReader) : 0 < r.missiles.length :=
  List.length_pos_iff.mpr r.missiles_ne

/-- The turn to the next pass hands out nothing. -/
theorem coming_wrapped (r : AmmoReader) : coming passes r.wrapped = coming passes r := by
  unfold wrapped
  by_cases h : r.index = r.length
  · rw [if_pos h]
    by_cases hp : passes ≤ r.pass
    · rw [coming_of_spent hp, coming_of_spent (Nat.le_succ_of_le hp)]
    · have hdrop : r.missiles.drop r.index = [] := by rw [h, length, List.drop_length]
      rw [coming, coming, if_neg hp, hdrop, List.nil_append]
      by_cases hlast : passes ≤ r.pass + 1
      · have hzero : passes - r.pass - 1 = 0 := by omega
        rw [if_pos hlast, hzero]
        rfl
      · have hsucc : passes - r.pass - 1 = passes - (r.pass + 1) - 1 + 1 := by omega
        rw [if_neg hlast, hsucc, List.replicate_succ, List.flatten_cons, List.drop_zero]
  · rw [if_neg h]

theorem Ends.wrapped (h : Ends passes r) :
    Ends passes r.wrapped ∧ r.wrapped.index < r.wrapped.missiles.length := by
  unfold AmmoReader.wrapped
  by_cases hi : r.index = r.length
  · rw [if_pos hi]
    exact ⟨⟨h.loops, Nat.zero_le _⟩, r.length_pos⟩
  · rw [if_neg hi]
    have hinside := h.inside
    rw [length] at hi
    exact ⟨h, by omega⟩

/-- Each call hands out the first missile that is still to come. -/
theorem Ends.next (h : Ends passes r) :
    r.next.1 = (coming passes r).head? ∧ coming passes r.next.2 = (coming passes r).tail ∧
      Ends passes r.next.2 := by
  obtain ⟨hw, hlt⟩ := h.wrapped
  have hspent : r.wrapped.isSpent = decide (passes ≤ r.wrapped.pass) := by rw [isSpent, hw.loops]
  rw [← coming_wrapped r, AmmoReader.next]
  by_cases hp : passes ≤ r.wrapped.pass
  · rw [if_pos (by rw [hspent, decide_eq_true hp])]
    refine ⟨?_, ?_, hw⟩ <;> rw [coming_of_spent hp] <;> rfl
  · rw [if_neg (by rw [hspent, decide_eq_false hp]; decide)]
    have hcoming : coming passes r.wrapped = r.wrapped.missiles[r.wrapped.index] ::
        (r.wrapped.missiles.drop (r.wrapped.index + 1) ++
          (List.replicate (passes - r.wrapped.pass - 1) r.wrapped.missiles).flatten) := by
      rw [coming, if_neg hp, List.drop_eq_getElem_cons hlt, List.cons_append]
    rw [hcoming]
    refine ⟨List.getElem?_eq_getElem hlt, ?_, hw.loops, hlt⟩
    rw [coming, if_neg hp]
    rfl

/-- A reader hands out what is still to come, and then nothing. -/
theorem yields_coming (h : Ends passes r) : Executor.Yields AmmoReader.next r (coming passes r) :=
  Executor.yields_of_view AmmoReader.next (fun _ h => h.next) h

/-- At its start a reader has all its missiles to hand out, once for every pass. -/
theorem coming_of_start (hp : r.pass = 0) (hi : r.index = 0) :
    coming passes r = (List.replicate passes r.missiles).flatten := by
  rw [coming, hp, hi, List.drop_zero]
  cases passes with
  | zero => rfl
  | succ n => rw [if_neg (by omega), List.replicate_succ, List.flatten_cons]; rfl

/-- A reader at its start hands out all its missiles once for every pass. -/
theorem yields_passes (hl : r.loops = some passes) (hp : r.pass = 0) (hi : r.index = 0) :
    Executor.Yields AmmoReader.next r (List.replicate passes r.missiles).flatten := by
  rw [← coming_of_start hp hi]
  exact yields_coming ⟨hl, hi ▸ Nat.zero_le _⟩

/-- What a reader that was loaded from a file has: the missiles of the file's text, and no call made
so far. -/
theorem load_cases {fs : FileSystem} {path : String} {format : AmmoFormat} {loops : Option Nat}
    (h : load fs path format loops = .ok r) :
    ∃ text, fs.readText path = .ok text ∧ r.missiles = format.missiles text ∧ r.loops = loops ∧
      r.pass = 0 ∧ r.index = 0 := by
  unfold load at h
  split at h
  · cases h
  · rename_i text htext
    refine ⟨text, htext, ?_⟩
    unfold ofText ofMissiles at h
    split at h
    · cases h
      exact ⟨rfl, rfl, rfl, rfl⟩
    · cases h

end Volley.AmmoReader
