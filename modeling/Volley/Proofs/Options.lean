import Volley.Options

/-!
# Tables of options

A key is there once, and what is found under it is what was put in last.

* `Json.lookup?_insertSorted`: an insertion.
* `Options.get?_insertAll`: insertions one after the other.
* `Options.ofList_entries`: a table from its own entries.
-/
namespace Volley

namespace Json

variable {α : Type} {key : String} {value : α} {entries : List (String × α)}

theorem lookup?_cons (key : String) (e : String × α) (entries : List (String × α)) :
    lookup? key (e :: entries) =
      (lookup? key entries).or (if e.1 = key then some e.2 else none) := by
  obtain ⟨k, v⟩ := e
  rw [lookup?]
  cases lookup? key entries <;> rfl

theorem lookup?_append (key : String) (first later : List (String × α)) :
    lookup? key (first ++ later) = (lookup? key later).or (lookup? key first) := by
  induction first with
  | nil => exact Option.or_none.symm
  | cons e first ih => rw [List.cons_append, lookup?_cons, ih, lookup?_cons, Option.or_assoc]

theorem lookup?_eq_none : lookup? key entries = none ↔ ∀ e ∈ entries, e.1 ≠ key := by
  induction entries with
  | nil => simp [lookup?]
  | cons e entries ih => simp [lookup?_cons, ih, and_comm]

theorem mem_of_lookup? (h : lookup? key entries = some value) : (key, value) ∈ entries := by
  induction entries with
  | nil => cases h
  | cons e entries ih =>
    rw [lookup?_cons] at h
    cases hr : lookup? key entries with
    | some v =>
      rw [hr] at h
      exact List.mem_cons_of_mem _ (ih (hr.trans h))
    | none =>
      rw [hr, Option.none_or] at h
      split at h
      · rename_i hk
        cases h
        cases hk
        exact List.mem_cons_self
      · cases h

/-! ## Ascending keys -/

theorem lookup?_of_lt (h : ∀ e ∈ entries, key < e.1) : lookup? key entries = none :=
  lookup?_eq_none.mpr fun e he heq => String.lt_irrefl key (heq ▸ h e he)

/-- What was put in is found, and nothing else has changed. -/
theorem lookup?_insertSorted (h : Ascending entries) (other : String) :
    lookup? other (insertSorted key value entries) =
      if key = other then some value else lookup? other entries := by
  induction entries with
  | nil => exact lookup?_cons other (key, value) []
  | cons first rest ih =>
    obtain ⟨k, v⟩ := first
    obtain ⟨hfirst, hrest⟩ := List.pairwise_cons.mp h
    rw [insertSorted]
    by_cases hlt : key < k
    · rw [if_pos hlt, lookup?_cons]
      by_cases hk : key = other
      · have hnone : lookup? other ((k, v) :: rest) = none := by
          rw [← hk]
          refine lookup?_of_lt fun e he => ?_
          rcases List.mem_cons.mp he with rfl | he
          · exact hlt
          · exact String.lt_trans hlt (hfirst e he)
        rw [hnone, Option.none_or, if_pos hk]
      · rw [if_neg hk, if_neg hk, Option.or_none]
    · rw [if_neg hlt]
      by_cases hsame : k = key
      · subst hsame
        rw [if_pos rfl, lookup?_cons, lookup?_cons]
        by_cases hk : k = other
        · rw [← hk, lookup?_of_lt hfirst, Option.none_or, if_pos rfl, if_pos rfl]
        · rw [if_neg hk, if_neg hk, if_neg hk]
      · rw [if_neg hsame, lookup?_cons, ih hrest, lookup?_cons]
        by_cases hk : key = other
        · rw [if_pos hk, if_pos hk, Option.some_or]
        · rw [if_neg hk, if_neg hk]

/-- A key above all others goes to the end. -/
theorem insertSorted_of_lt (h : ∀ e ∈ entries, e.1 < key) :
    insertSorted key value entries = entries ++ [(key, value)] := by
  induction entries with
  | nil => rfl
  | cons first rest ih =>
    obtain ⟨k, v⟩ := first
    have hlt : k < key := h (k, v) List.mem_cons_self
    rw [insertSorted, if_neg (String.lt_asymm hlt), if_neg (String.ne_of_lt hlt),
      ih fun e he => h e (List.mem_cons_of_mem _ he)]
    rfl

end Json

namespace Options

/-- Entries that follow those of a table go behind them. -/
theorem entries_insertAll {o : Options} {later : List (String × String)}
    (h : Json.Ascending (o.entries ++ later)) :
    (later.foldl (fun o (k, v) => o.insert k v) o).entries = o.entries ++ later := by
  induction later generalizing o with
  | nil => exact (List.append_nil _).symm
  | cons e later ih =>
    obtain ⟨k, v⟩ := e
    have hlast : ∀ e ∈ o.entries, e.1 < k := fun e he =>
      (List.pairwise_append.mp h).2.2 e he (k, v) List.mem_cons_self
    have hinsert : (o.insert k v).entries = o.entries ++ [(k, v)] := Json.insertSorted_of_lt hlast
    rw [List.append_cons, ← hinsert] at h ⊢
    exact ih h

/-- The table of the entries of a table is that table. -/
theorem ofList_entries (o : Options) : ofList o.entries = o :=
  Options.ext (entries_insertAll o.ascending)

/-- Of values put in one after the other the last one is found. -/
theorem get?_insertAll (o : Options) (pairs : List (String × String)) (key : String) :
    (pairs.foldl (fun o (k, v) => o.insert k v) o).get? key =
      (Json.lookup? key pairs).or (o.get? key) := by
  induction pairs generalizing o with
  | nil => rfl
  | cons pair pairs ih =>
    obtain ⟨k, v⟩ := pair
    have hinsert : (o.insert k v).get? key =
        (if k = key then some v else none).or (o.get? key) := by
      rw [show (o.insert k v).get? key = _ from Json.lookup?_insertSorted o.ascending key]
      split <;> rfl
    rw [Json.lookup?_cons, Option.or_assoc, ← hinsert]
    exact ih (o.insert k v)

end Options

end Volley
