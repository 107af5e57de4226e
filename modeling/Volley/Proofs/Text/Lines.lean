import Volley.Text.Split
import Volley.Text.Blank

/-!
# Lines of a text

`lines` distributes over a cut right after a line feed (`lines_append`), and gives back the lines
that a text was put together from, if none of them holds a line feed or ends with a carriage return
(`lines_flatMap`).
-/
namespace Volley.Text

variable {α : Type}

/-! ## Cuts -/

theorem append_of_cutLast? [DecidableEq α] {sep : α} {s a b : List α}
    (h : cutLast? sep s = some (a, b)) : s = a ++ sep :: b ∧ sep ∉ b := by
  obtain ⟨⟨x, y⟩, hc, he⟩ := Option.map_eq_some_iff.mp h
  obtain ⟨hs, hx⟩ := append_of_cut? hc
  cases he
  refine ⟨?_, by rwa [List.mem_reverse]⟩
  have := congrArg List.reverse hs
  simpa using this

/-- The first separator is the one behind a part without any. -/
theorem cut?_append [DecidableEq α] {sep : α} {a : List α} (h : sep ∉ a) (b : List α) :
    cut? sep (a ++ sep :: b) = some (a, b) := by
  induction a with
  | nil => simp [cut?]
  | cons c r ih =>
    rw [List.mem_cons, not_or] at h
    rw [List.cons_append, cut?, if_neg (Ne.symm h.1), ih h.2]
    rfl

/-- What stands behind a separator stands behind the first one. -/
theorem cut?_append_cons [DecidableEq α] {sep : α} (a b : List α) :
    ∃ x y, cut? sep (a ++ sep :: b) = some (x, y) ∧ b <:+ y := by
  induction a with
  | nil => exact ⟨[], b, by simp [cut?], List.suffix_refl b⟩
  | cons c r ih =>
    rw [List.cons_append, cut?]
    split
    · exact ⟨[], r ++ sep :: b, rfl, (List.suffix_cons sep b).trans (List.suffix_append r _)⟩
    · obtain ⟨x, y, hcut, hsuffix⟩ := ih
      exact ⟨c :: x, y, by rw [hcut]; rfl, hsuffix⟩

theorem fields_of_not_mem [DecidableEq α] {sep : α} {s : List α} (h : sep ∉ s) :
    fields sep s = [s] := by
  induction s with
  | nil => rfl
  | cons c r ih =>
    rw [List.mem_cons, not_or] at h
    rw [fields, if_neg (Ne.symm h.1), ih h.2]

theorem fields_append [DecidableEq α] {sep : α} {a : List α} (h : sep ∉ a) (b : List α) :
    fields sep (a ++ sep :: b) = a :: fields sep b := by
  induction a with
  | nil => simp [fields]
  | cons c r ih =>
    rw [List.mem_cons, not_or] at h
    rw [List.cons_append, fields, if_neg (Ne.symm h.1), ih h.2]

/-- No field holds the separator. -/
theorem not_mem_of_mem_fields [DecidableEq α] {sep : α} {s f : List α} (h : f ∈ fields sep s) :
    sep ∉ f := by
  induction s generalizing f with
  | nil =>
    rw [List.mem_singleton.mp h]
    exact List.not_mem_nil
  | cons c r ih =>
    rw [fields] at h
    split at h
    · rcases List.mem_cons.mp h with rfl | h
      · exact List.not_mem_nil
      · exact ih h
    · rename_i hc
      split at h
      · rw [List.mem_singleton.mp h, List.mem_singleton]
        exact Ne.symm hc
      · rename_i first others hr
        rcases List.mem_cons.mp h with rfl | h
        · rw [List.mem_cons, not_or]
          exact ⟨Ne.symm hc, ih (hr ▸ List.mem_cons_self)⟩
        · exact ih (hr ▸ List.mem_cons_of_mem _ h)

/-! ## Pieces behind a terminator -/

theorem splitAfter_append {p : α → Bool} {c : α} (hc : p c = true) (a b : List α) :
    splitAfter p (a ++ c :: b) = splitAfter p (a ++ [c]) ++ splitAfter p b := by
  induction a with
  | nil => simp [splitAfter, hc]
  | cons x r ih =>
    simp only [List.cons_append, splitAfter, ih]
    split
    · rfl
    · -- The first piece of `r ++ [c]` takes `x` in; there is one, for it holds `c`.
      have hne : splitAfter p (r ++ [c]) ≠ [] := by
        intro e
        have := flatten_splitAfter p (r ++ [c])
        rw [e] at this
        simp at this
      obtain ⟨f, fs, hf⟩ := List.exists_cons_of_ne_nil hne
      simp only [hf, List.cons_append]

theorem splitAfter_line {p : α → Bool} {c : α} (hc : p c = true) {l : List α}
    (h : ∀ x ∈ l, p x = false) : splitAfter p (l ++ [c]) = [l ++ [c]] := by
  induction l with
  | nil => simp [splitAfter, hc]
  | cons x r ih =>
    have hx := h x List.mem_cons_self
    rw [List.cons_append, splitAfter, hx, ih fun y hy => h y (List.mem_cons_of_mem _ hy)]
    rfl

theorem splitAfter_of_none {p : α → Bool} {l : List α} (hne : l ≠ []) (h : ∀ x ∈ l, p x = false) :
    splitAfter p l = [l] := by
  induction l with
  | nil => exact absurd rfl hne
  | cons x r ih =>
    rw [splitAfter, h x List.mem_cons_self]
    cases r with
    | nil => rfl
    | cons y r =>
      rw [ih (List.cons_ne_nil y r) fun z hz => h z (List.mem_cons_of_mem _ hz)]
      rfl

/-- Lines can be read in two goes if the first ends with a line feed. -/
theorem lines_append (a b : List Char) :
    lines (a ++ '\n' :: b) = lines (a ++ ['\n']) ++ lines b := by
  simp only [lines, splitAfter_append (p := (· == '\n')) (c := '\n') rfl a b, List.map_append]

theorem stripTerminator_line {l : List Char} (h : l.getLast? ≠ some '\r') :
    stripTerminator (l ++ ['\n']) = l := by
  have hline : (l ++ ['\n']).reverse = '\n' :: l.reverse := List.reverse_concat
  rw [stripTerminator, hline]
  cases hl : l.reverse with
  | nil => simpa using hl.symm
  | cons x r =>
    have hx : x ≠ '\r' := by
      intro e
      apply h
      rw [← List.head?_reverse, hl, e]
      rfl
    have hrev : l = (x :: r).reverse := by rw [← hl, List.reverse_reverse]
    split
    · rename_i heq
      simp only [List.cons.injEq, true_and] at heq
      exact absurd heq.1 hx
    · rename_i heq
      simp only [List.cons.injEq, true_and] at heq
      rw [← heq, hrev]
    · rename_i hno
      exact absurd rfl (hno (x :: r))

/-- One who trims both characters of a line's end anyway need not take it off before. -/
theorem trimEndWhile_stripTerminator {p : Char → Bool} (hn : p '\n' = true) (hr : p '\r' = true)
    (l : List Char) : trimEndWhile p (stripTerminator l) = trimEndWhile p l := by
  unfold stripTerminator trimEndWhile
  split
  · rename_i r hrev
    rw [hrev, List.reverse_reverse, List.dropWhile_cons_of_pos hn, List.dropWhile_cons_of_pos hr]
  · rename_i r _ hrev
    rw [hrev, List.reverse_reverse, List.dropWhile_cons_of_pos hn]
  · rfl

/-- Lines that were ended one by one are found again. -/
theorem lines_flatMap {ls : List (List Char)} (hn : ∀ l ∈ ls, '\n' ∉ l)
    (hr : ∀ l ∈ ls, l.getLast? ≠ some '\r') : lines (ls.flatMap (· ++ ['\n'])) = ls := by
  induction ls with
  | nil => rfl
  | cons l ls ih =>
    have hl : ∀ x ∈ l, (x == '\n') = false := by
      intro x hx
      rw [beq_eq_false_iff_ne]
      exact fun e => hn l List.mem_cons_self (e ▸ hx)
    rw [List.flatMap_cons, List.append_assoc, List.singleton_append, lines_append,
      ih (fun l' h => hn l' (List.mem_cons_of_mem _ h))
        (fun l' h => hr l' (List.mem_cons_of_mem _ h)),
      lines, splitAfter_line (p := (· == '\n')) (c := '\n') rfl hl]
    simp only [List.map_cons, List.map_nil, stripTerminator_line (hr l List.mem_cons_self),
      List.singleton_append]

end Volley.Text
