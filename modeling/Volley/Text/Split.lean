/-!
# Cutting text

Cutting at the first or the last occurrence of a separator, at all of them, and into lines.
Main statements: the pieces of `splitAfter` concatenate to the whole (`flatten_splitAfter`), and
`cut?` fails exactly when the separator is absent (`cut?_eq_none_iff`).
-/

namespace Volley.Text

variable {α : Type}

/-- The parts before and after the first `sep`. -/
def cut? [DecidableEq α] (sep : α) : List α → Option (List α × List α)
  | [] => none
  | c :: r => if c = sep then some ([], r) else (cut? sep r).map fun (a, b) => (c :: a, b)

/-- The parts before and after the last `sep`. -/
def cutLast? [DecidableEq α] (sep : α) (s : List α) : Option (List α × List α) :=
  (cut? sep s.reverse).map fun (a, b) => (b.reverse, a.reverse)

/-- All parts between occurrences of `sep`; there is always at least one. -/
def fields [DecidableEq α] (sep : α) : List α → List (List α)
  | [] => [[]]
  | c :: r =>
    if c = sep then [] :: fields sep r
    else match fields sep r with
      | [] => [[c]]
      | f :: fs => (c :: f) :: fs

/-- The pieces that end after each element of the class `p`; the last one may be unterminated. -/
def splitAfter (p : α → Bool) : List α → List (List α)
  | [] => []
  | c :: r =>
    if p c then [c] :: splitAfter p r
    else match splitAfter p r with
      | [] => [[c]]
      | f :: fs => (c :: f) :: fs

/-- A line without its terminator: a line feed, and a carriage return right before it. -/
def stripTerminator (l : List Char) : List Char :=
  match l.reverse with
  | '\n' :: '\r' :: r => r.reverse
  | '\n' :: r => r.reverse
  | _ => l

/-- The lines of a text. A carriage return counts as part of a line's end only before a line
feed. -/
def lines (s : List Char) : List (List Char) :=
  (splitAfter (· == '\n') s).map stripTerminator

/-- The text after `pre`, if it begins with that. -/
def dropPrefix? [DecidableEq α] : List α → List α → Option (List α)
  | [], s => some s
  | _ :: _, [] => none
  | c :: pre, d :: s => if c = d then dropPrefix? pre s else none

/-- The text before `suf`, if it ends with that. -/
def dropSuffix? [DecidableEq α] (suf s : List α) : Option (List α) :=
  (dropPrefix? suf.reverse s.reverse).map List.reverse

/-- Whether `pat` occurs in the text. -/
def occurs [DecidableEq α] (pat : List α) : List α → Bool
  | [] => pat.isEmpty
  | c :: r => (dropPrefix? pat (c :: r)).isSome || occurs pat r

theorem flatten_splitAfter (p : α → Bool) (s : List α) : (splitAfter p s).flatten = s := by
  induction s with
  | nil => rfl
  | cons c r ih =>
    rw [splitAfter]
    split
    · simp [ih]
    · split <;> rename_i h <;> rw [h] at ih <;> simp [ih.symm]

theorem cut?_eq_none_iff [DecidableEq α] (sep : α) (s : List α) : cut? sep s = none ↔ sep ∉ s := by
  induction s with
  | nil => simp [cut?]
  | cons c r ih =>
    rw [cut?]
    split
    · rename_i h; simp [h]
    · rename_i h; simp [ih, Ne.symm h]

theorem append_of_cut? [DecidableEq α] {sep : α} {s a b : List α} (h : cut? sep s = some (a, b)) :
    s = a ++ sep :: b ∧ sep ∉ a := by
  induction s generalizing a b with
  | nil => simp [cut?] at h
  | cons c r ih =>
    rw [cut?] at h
    split at h
    · rename_i hc; cases h; simp [hc]
    · rename_i hc
      obtain ⟨⟨a', b'⟩, h', e⟩ := Option.map_eq_some_iff.1 h
      cases e
      have := ih h'
      simp [this.1, this.2, Ne.symm hc]

end Volley.Text
