import Volley.Text.Blank

/-!
# Texts without blanks

A text without blanks is what trimming leaves of it (`trim_of_solid`), also with blanks around it
(`trim_around`), and trimming at the end stops before a part that holds nothing of the class
(`trimEndWhile_append_of_none`). A character that is no blank stays, and each end is trimmed on its
own side of it (`trim_append_cons`). What was trimmed is not trimmed further (`trim_trim`).
-/
namespace Volley.Text

theorem dropWhile_of_none {p : Char → Bool} {s : List Char} (h : ∀ c ∈ s, p c = false) :
    s.dropWhile p = s := by
  cases s with
  | nil => rfl
  | cons c r => rw [List.dropWhile_cons_of_neg (by simp [h c List.mem_cons_self])]

/-- Trimming takes a suffix of the class and stops there. -/
theorem trimEndWhile_append_of_none {p : Char → Bool} (s : List Char) {t u : List Char}
    (hne : t ≠ []) (ht : ∀ c ∈ t, p c = false) (hu : ∀ c ∈ u, p c = true) :
    trimEndWhile p (s ++ t ++ u) = s ++ t := by
  have hlast := ht (t.getLast hne) (List.getLast_mem hne)
  unfold trimEndWhile
  rw [List.reverse_append, List.dropWhile_append_of_pos (by simpa using hu),
    ← List.dropLast_concat_getLast hne]
  simp [hlast]

/-- What is dropped at the front ends before a character that is not in the class. -/
theorem dropWhile_append_cons {p : Char → Bool} {c : Char} (hc : p c = false) (s t : List Char) :
    (s ++ c :: t).dropWhile p = s.dropWhile p ++ c :: t := by
  rw [List.dropWhile_append, List.dropWhile_cons_of_neg (by simp [hc])]
  split
  · rename_i hs
    rw [List.isEmpty_iff.mp hs, List.nil_append]
  · rfl

theorem trim_append_cons {c : Char} (hc : isBlank c = false) (s t : List Char) :
    trim (s ++ c :: t) = trimStart s ++ c :: trimEnd t := by
  rw [trim, trimStart, dropWhile_append_cons hc, trimEnd, trimEndWhile, List.reverse_append,
    List.reverse_cons, List.append_assoc, List.singleton_append, dropWhile_append_cons hc]
  simp [trimStart, trimEnd, trimEndWhile]

/-- A part that is left at the front does not begin with what was dropped there. -/
theorem dropWhile_of_isPrefix {p : Char → Bool} {s t : List Char} (h : t <+: s.dropWhile p) :
    t.dropWhile p = t := by
  cases t with
  | nil => rfl
  | cons c r =>
    obtain ⟨rest, hrest⟩ := h
    have hc : p c = false := by
      have hhead := List.head?_dropWhile_not p s
      rw [← hrest] at hhead
      simpa using hhead
    rw [List.dropWhile_cons_of_neg (by simp [hc])]

theorem trim_trim (s : List Char) : trim (trim s) = trim s := by
  obtain ⟨tail, htail, -⟩ := trimEndWhile_append isBlank (trimStart s)
  have hstart : trimStart (trim s) = trim s := dropWhile_of_isPrefix ⟨tail, htail.symm⟩
  have hend : trimEnd (trim s) = trim s := by
    simp only [trim, trimEnd, trimEndWhile, List.reverse_reverse]
    rw [dropWhile_of_isPrefix (List.prefix_refl _)]
  calc trim (trim s) = trimEnd (trimStart (trim s)) := rfl
    _ = trimEnd (trim s) := by rw [hstart]
    _ = trim s := hend

/-- No character is blank. -/
def Solid (s : List Char) : Prop := ∀ c ∈ s, isBlank c = false

theorem Solid.append {s t : List Char} (hs : Solid s) (ht : Solid t) : Solid (s ++ t) := by
  intro c h
  rcases List.mem_append.mp h with h | h
  · exact hs c h
  · exact ht c h

theorem Solid.cons {c : Char} {s : List Char} (hc : isBlank c = false) (hs : Solid s) :
    Solid (c :: s) := by
  intro d h
  rcases List.mem_cons.mp h with rfl | h
  · exact hc
  · exact hs d h

theorem Solid.not_mem {s : List Char} (hs : Solid s) {c : Char} (hc : isBlank c = true) :
    c ∉ s := by
  intro h
  rw [hs c h] at hc
  cases hc

theorem trim_of_solid {s : List Char} (h : Solid s) : trim s = s := by
  rw [trim, trimStart, dropWhile_of_none h, trimEnd, trimEndWhile,
    dropWhile_of_none fun c hc => h c (List.mem_reverse.mp hc), List.reverse_reverse]

/-- Trimming takes the blanks away from around a text that has none. -/
theorem trim_around {front s back : List Char} (hfront : isBlankText front = true) (hs : Solid s)
    (hne : s ≠ []) (hback : isBlankText back = true) : trim (front ++ s ++ back) = s := by
  have hstart : trimStart (front ++ s ++ back) = s ++ back := by
    obtain ⟨c, r, rfl⟩ := List.exists_cons_of_ne_nil hne
    have hc : isBlank c = false := hs c List.mem_cons_self
    rw [trimStart, List.append_assoc, List.dropWhile_append_of_pos (List.all_eq_true.mp hfront),
      List.cons_append, List.dropWhile_cons_of_neg (by simp [hc])]
  rw [trim, hstart]
  exact trimEndWhile_append_of_none [] hne hs (List.all_eq_true.mp hback)

theorem isBlank_of_isDigit {c : Char} (h : c.isDigit = true) : isBlank c = false := by
  have h48 : 48 ≤ c.toNat ∧ c.toNat ≤ 57 := Char.isDigit_iff_toNat.mp h
  simp only [isBlank, Bool.or_eq_false_iff, Bool.and_eq_false_iff, decide_eq_false_iff_not,
    beq_eq_false_iff_ne]
  omega

end Volley.Text
