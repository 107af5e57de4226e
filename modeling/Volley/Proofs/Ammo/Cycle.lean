import Volley.Proofs.Ammo.Reader

/-!
# How ammunition readers go round

A reader counts its passes and its steps within a pass, and only the call that follows the last
missile of a pass turns to the next one. `place` is the number that both counters stand for, the
missiles handed out so far. The turn leaves it alone, and behind the turn the counters are its
quotient and its remainder by the number of missiles (`pass_wrapped`, `index_wrapped`). A reader
that has come to its end turns once more and then stays where it is.

* `next_of_more`, `next_of_through`: one call, in terms of the place.
* `place_after`: the place after any number of calls.
* `cycles_exactly`: which missile each call hands out, also long after the end.
-/
namespace Volley.AmmoReader

variable {r : AmmoReader}

/-- How many missiles the reader has handed out. -/
def place (r : AmmoReader) : Nat := r.pass * r.length + r.index

/-- The reader after so many calls. -/
def after (r : AmmoReader) : Nat → AmmoReader
  | 0 => r
  | k + 1 => (r.after k).next.2

/-! ## The turn to the next pass -/

@[simp] theorem missiles_wrapped (r : AmmoReader) : r.wrapped.missiles = r.missiles := by
  unfold wrapped
  split <;> rfl

@[simp] theorem loops_wrapped (r : AmmoReader) : r.wrapped.loops = r.loops := by
  unfold wrapped
  split <;> rfl

/-- The turn hands out nothing. -/
theorem place_wrapped (r : AmmoReader) : r.wrapped.place = r.place := by
  unfold wrapped
  split
  · rename_i hend
    show (r.pass + 1) * r.length + 0 = r.pass * r.length + r.index
    rw [hend, Nat.add_mul, Nat.one_mul, Nat.add_zero]
  · rfl

theorem index_wrapped_lt (h : r.index ≤ r.length) : r.wrapped.index < r.length := by
  have hpos : 0 < r.length := r.length_pos
  unfold wrapped
  split
  · exact hpos
  · omega

theorem place_eq_of_wrapped (r : AmmoReader) :
    r.place = r.wrapped.pass * r.length + r.wrapped.index := by
  rw [← place_wrapped, place, length, missiles_wrapped, length]

/-- Behind the turn a reader has gone through as many whole passes as its place holds. -/
theorem pass_wrapped (h : r.index ≤ r.length) : r.wrapped.pass = r.place / r.length := by
  have hlt := index_wrapped_lt h
  rw [place_eq_of_wrapped, Nat.mul_comm, Nat.mul_add_div (by omega), Nat.div_eq_of_lt hlt,
    Nat.add_zero]

theorem index_wrapped (h : r.index ≤ r.length) : r.wrapped.index = r.place % r.length := by
  have hlt := index_wrapped_lt h
  rw [place_eq_of_wrapped, Nat.mul_comm, Nat.mul_add_mod, Nat.mod_eq_of_lt hlt]

/-- All passes are through when the place has come to the total. -/
theorem isSpent_wrapped (h : r.index ≤ r.length) :
    r.wrapped.isSpent = true ↔ ∃ total ∈ r.total, total ≤ r.place := by
  have hpos : 0 < r.length := r.length_pos
  rw [isSpent, loops_wrapped, total, pass_wrapped h]
  cases r.loops with
  | none => simp
  | some passes => simp [Nat.le_div_iff_mul_le hpos]

/-! ## Calls -/

@[simp] theorem missiles_next (r : AmmoReader) : r.next.2.missiles = r.missiles := by
  simp only [next]
  split <;> exact missiles_wrapped r

@[simp] theorem loops_next (r : AmmoReader) : r.next.2.loops = r.loops := by
  simp only [next]
  split <;> exact loops_wrapped r

@[simp] theorem length_next (r : AmmoReader) : r.next.2.length = r.length := by
  rw [length, missiles_next, length]

@[simp] theorem total_next (r : AmmoReader) : r.next.2.total = r.total := by
  rw [total, loops_next, length_next, total]

/-- A call before the end hands out the missile at the place and moves on by one. -/
theorem next_of_more (h : r.index ≤ r.length) (hmore : ∀ total ∈ r.total, r.place < total) :
    r.next.1 = r.missiles[r.place % r.length]? ∧ r.next.2.place = r.place + 1 ∧
      r.next.2.index ≤ r.length := by
  have hspent : ¬ r.wrapped.isSpent = true := by
    rw [isSpent_wrapped h]
    rintro ⟨total, ht, hle⟩
    exact Nat.not_lt.mpr hle (hmore total ht)
  have hlt := index_wrapped_lt h
  simp only [next, if_neg hspent]
  refine ⟨by rw [missiles_wrapped, index_wrapped h], ?_, hlt⟩
  rw [← place_wrapped r]
  rfl

/-- A call at the end hands out nothing and moves nothing but the turn. -/
theorem next_of_through (h : r.index ≤ r.length) {total : Nat} (ht : r.total = some total)
    (hend : total ≤ r.place) :
    r.next.1 = none ∧ r.next.2.place = r.place ∧ r.next.2.index ≤ r.length := by
  have hspent : r.wrapped.isSpent = true := (isSpent_wrapped h).mpr ⟨total, ht, hend⟩
  have hlt := index_wrapped_lt h
  simp only [next, if_pos hspent]
  exact ⟨trivial, place_wrapped r, Nat.le_of_lt hlt⟩

/-! ## Any number of calls -/

@[simp] theorem missiles_after (r : AmmoReader) (k : Nat) : (r.after k).missiles = r.missiles := by
  induction k with
  | zero => rfl
  | succ k ih => rw [after, missiles_next, ih]

@[simp] theorem length_after (r : AmmoReader) (k : Nat) : (r.after k).length = r.length := by
  rw [length, missiles_after, length]

@[simp] theorem total_after (r : AmmoReader) (k : Nat) : (r.after k).total = r.total := by
  induction k with
  | zero => rfl
  | succ k ih => rw [after, total_next, ih]

/-- How far so many calls bring a reader that ends, if it does, at a total. -/
def reached (total : Option Nat) (k : Nat) : Nat := (total.map (min k)).getD k

theorem more_or_through (total : Option Nat) (k : Nat) :
    (∀ t ∈ total, k < t) ∨ ∃ t, total = some t ∧ t ≤ k := by
  cases total with
  | none => exact .inl (by simp)
  | some t =>
    rcases Nat.lt_or_ge k t with h | h
    · exact .inl (by simpa using h)
    · exact .inr ⟨t, rfl, h⟩

theorem reached_of_more {total : Option Nat} {k : Nat} (h : ∀ t ∈ total, k < t) :
    reached total k = k ∧ reached total (k + 1) = k + 1 := by
  cases total with
  | none => exact ⟨rfl, rfl⟩
  | some t =>
    have hlt : k < t := h t rfl
    simp only [reached, Option.map_some, Option.getD_some]
    omega

theorem reached_of_through {t k : Nat} (h : t ≤ k) : reached (some t) k = t := by
  simp only [reached, Option.map_some, Option.getD_some]
  omega

section Start
variable (hp : r.pass = 0) (hi : r.index = 0)
include hp hi

/-- Calls move a reader on by one each, up to its total. -/
theorem place_after (k : Nat) :
    (r.after k).place = reached r.total k ∧ (r.after k).index ≤ r.length := by
  induction k with
  | zero =>
    have hplace : r.place = 0 := by rw [place, hp, hi, Nat.zero_mul]
    have hreached : reached r.total 0 = 0 := by cases r.total <;> simp [reached]
    rw [after, hplace, hreached, hi]
    exact ⟨rfl, Nat.zero_le _⟩
  | succ k ih =>
    obtain ⟨hplace, hinside⟩ := ih
    have hinside' : (r.after k).index ≤ (r.after k).length := by rwa [length_after]
    rcases more_or_through r.total k with hmore | ⟨t, htotal, hle⟩
    · obtain ⟨hk, hk'⟩ := reached_of_more hmore
      have hmore' : ∀ t ∈ (r.after k).total, (r.after k).place < t := by
        rw [total_after, hplace, hk]
        exact hmore
      obtain ⟨-, hstep, hlt⟩ := next_of_more hinside' hmore'
      rw [after, hstep, hplace, hk, hk']
      exact ⟨rfl, by rwa [length_after] at hlt⟩
    · have hthrough : (r.after k).place = t := by rw [hplace, htotal, reached_of_through hle]
      obtain ⟨-, hstep, hlt⟩ := next_of_through hinside' ((total_after r k).trans htotal)
        (Nat.le_of_eq hthrough.symm)
      rw [after, hstep, hthrough, htotal, reached_of_through (Nat.le_succ_of_le hle)]
      exact ⟨rfl, by rwa [length_after] at hlt⟩

/-- Before the end, call number `k` hands out missile number `k` of the list gone round. -/
theorem next_after_of_more {k : Nat} (hmore : ∀ total ∈ r.total, k < total) :
    (r.after k).next.1 = r.missiles[k % r.length]? := by
  obtain ⟨hplace, hinside⟩ := place_after hp hi k
  rw [(reached_of_more hmore).1] at hplace
  rw [← length_after r k] at hinside
  obtain ⟨hanswer, -⟩ := next_of_more hinside (by rwa [total_after, hplace])
  rwa [missiles_after, hplace, length_after] at hanswer

theorem next_after_of_through {k total : Nat} (ht : r.total = some total) (hend : total ≤ k) :
    (r.after k).next.1 = none := by
  obtain ⟨hplace, hinside⟩ := place_after hp hi k
  rw [ht, reached_of_through hend] at hplace
  rw [← length_after r k] at hinside
  exact (next_of_through hinside ((total_after r k).trans ht) (Nat.le_of_eq hplace.symm)).1

/-- A reader counts no more passes than it is to make, or than it was called. -/
theorem pass_after_le (k : Nat) : (r.after k).pass ≤ r.loops.getD k := by
  have hpos : 0 < r.length := r.length_pos
  have hle : (r.after k).pass * r.length ≤ reached r.total k := by
    rw [← (place_after hp hi k).1, place, length_after]
    exact Nat.le_add_right _ _
  rw [total] at hle
  cases hl : r.loops with
  | none =>
    rw [hl] at hle
    exact Nat.le_trans (Nat.le_mul_of_pos_right _ hpos) hle
  | some passes =>
    rw [hl] at hle
    exact Nat.le_of_mul_le_mul_right (Nat.le_trans hle (Nat.min_le_right k _)) hpos

end Start

/-- The missiles that a reader yields are the first of those to come. -/
theorem take_eq_take_coming {passes : Nat} (h : Ends passes r) (k : Nat) :
    (r.take k).1 = (coming passes r).take k := by
  induction k generalizing r with
  | zero => rfl
  | succ k ih =>
    obtain ⟨hhead, htail, hends⟩ := h.next
    rw [take]
    cases hcoming : coming passes r with
    | nil =>
      rw [hcoming] at hhead
      have hnone : r.next = (none, r.next.2) := Prod.ext hhead rfl
      rw [hnone]
      rfl
    | cons m rest =>
      rw [hcoming] at hhead htail
      have hsome : r.next = (some m, r.next.2) := Prod.ext hhead rfl
      rw [hsome, List.take_succ_cons]
      simp only
      rw [ih hends, htail, List.tail_cons]

/-- **A reader cycles exactly.** Call number `k` hands out missile number `k` of the list that is
gone through over and over; with a number of passes only as long as there are passes left, and none
from then on, however often it is called. So it yields the list once for every pass, as many
missiles as its total says. Its length never changes, and no counter outgrows the number of passes,
or that of the calls where there is no end. -/
theorem cycles_exactly (missiles : List Missile) (hne : missiles ≠ []) (loops : Option Nat) :
    ∃ r, ofMissiles missiles loops = .ok r ∧
      (∀ k, (∀ passes ∈ loops, k < passes * missiles.length) →
        ∃ m, missiles[k % missiles.length]? = some m ∧ (r.after k).next.1 = some m) ∧
      (∀ passes ∈ loops,
        (∀ k, passes * missiles.length ≤ k → (r.after k).next.1 = none) ∧
        (∀ k, (r.take k).1 = (List.replicate passes missiles).flatten.take k) ∧
        r.total = some (List.replicate passes missiles).flatten.length) ∧
      (loops = none → r.total = none) ∧
      ∀ k, (r.after k).length = missiles.length ∧ (r.after k).index ≤ missiles.length ∧
        (r.after k).pass ≤ loops.getD k := by
  let r : AmmoReader := ⟨missiles, loops, 0, 0, hne⟩
  have hpos : 0 < missiles.length := List.length_pos_iff.mpr hne
  have htotal : r.total = loops.map (· * missiles.length) := rfl
  refine ⟨r, dif_pos hne, ?_, ?_, ?_, ?_⟩
  · intro k hk
    have hmore : ∀ t ∈ r.total, k < t := by
      rw [htotal]
      simpa using hk
    have hlt : k % missiles.length < missiles.length := Nat.mod_lt k hpos
    have hget := List.getElem?_eq_getElem hlt
    exact ⟨_, hget, (next_after_of_more (r := r) rfl rfl hmore).trans hget⟩
  · rintro passes hloops
    have hl : loops = some passes := hloops
    have hsome : r.total = some (passes * missiles.length) := by rw [htotal, hl]; rfl
    refine ⟨fun k hk => next_after_of_through (r := r) rfl rfl hsome hk, fun k => ?_, ?_⟩
    · have hends : Ends passes r := ⟨hl, Nat.zero_le _⟩
      rw [take_eq_take_coming hends, coming_of_start rfl rfl]
    · rw [hsome]
      simp
  · rintro hl
    rw [htotal, hl]
    rfl
  · intro k
    exact ⟨length_after r k, (place_after (r := r) rfl rfl k).2, pass_after_le (r := r) rfl rfl k⟩

/-- Two passes over two missiles, with calls long after the last one. -/
theorem cycles_exactly_twoPasses :
    [Missile.unmarked "a", .unmarked "b"] ≠ [] ∧
    ∃ r, ofMissiles [.unmarked "a", .unmarked "b"] (some 2) = .ok r ∧
      (r.after 3).next.1 = some (.unmarked "b") ∧ (r.after 4).next.1 = none ∧
      (r.after 9).next.1 = none ∧
      (r.take 7).1 = [.unmarked "a", .unmarked "b", .unmarked "a", .unmarked "b"] ∧
      r.total = some 4 := by
  have hne : [Missile.unmarked "a", .unmarked "b"] ≠ [] := List.cons_ne_nil _ _
  obtain ⟨r, hr, hbefore, hend, -⟩ := cycles_exactly _ hne (some 2)
  obtain ⟨hnone, htake, htotal⟩ := hend 2 rfl
  obtain ⟨m, hm, h3⟩ := hbefore 3 (by simp)
  have hb : Missile.unmarked "b" = m := Option.some.inj hm
  exact ⟨hne, r, hr, hb ▸ h3, hnone 4 (by decide), hnone 9 (by decide), htake 7, htotal⟩

end Volley.AmmoReader
