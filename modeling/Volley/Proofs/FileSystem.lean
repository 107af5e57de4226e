import Volley.FileSystem

/-!
# A file stays at its path

A path is followed step by step, so putting a node somewhere could turn any path elsewhere. It does
not where no directory is put out of the way (`foldlM_step_put`): a walk passes through directories
only, and what was there to enter stays. Hence a file that was made at a path is found there, and
still is after bytes were put at its end.

* `FileAt.of_create`: what `create` makes is an empty file at the path.
* `FileAt.append`: appending at its place appends to the file at the path.
-/
namespace Volley.FileSystem

/-! ## Putting a node -/

section Put
variable {fs : FileSystem} {here : List String} {n : Node}

theorem nodeAt?_put_self : (fs.put here n).nodeAt? here = some n := by
  simp [nodeAt?, put]

theorem find?_put {there : List String} (hne : there ≠ here) :
    (fs.put here n).nodes.find? (·.1 == there) = fs.nodes.find? (·.1 == there) := by
  unfold put
  rw [List.find?_cons_of_neg (by simpa using Ne.symm hne), List.find?_filter]
  congr 1
  funext node
  by_cases h : node.1 = there
  · simp [h, hne]
  · simp [h]

theorem any_isPrefix_put {there : List String}
    (h : fs.nodes.any (fun node => isPrefix there node.1) = true) :
    (fs.put here n).nodes.any (fun node => isPrefix there node.1) = true := by
  obtain ⟨node, hmem, hpre⟩ := List.any_eq_true.mp h
  rw [List.any_eq_true]
  by_cases hat : node.1 = here
  · exact ⟨(here, n), List.mem_cons_self, by rw [← hat]; exact hpre⟩
  · exact ⟨node, List.mem_cons_of_mem _ (List.mem_filter.mpr ⟨hmem, by simpa using hat⟩), hpre⟩

/-- Elsewhere a node stays, and nothing but directories on the way may be new. -/
theorem nodeAt?_put {there : List String} (hne : there ≠ here) {m : Node}
    (h : fs.nodeAt? there = some m) : (fs.put here n).nodeAt? there = some m := by
  unfold nodeAt? at h ⊢
  rw [find?_put hne]
  cases hf : fs.nodes.find? (·.1 == there) with
  | some found => rw [hf] at h; exact h
  | none =>
    simp only [hf] at h ⊢
    split at h
    · rename_i hd
      rw [if_pos]
      · exact h
      · rw [Bool.or_eq_true] at hd ⊢
        exact hd.imp id any_isPrefix_put
    · cases h

theorem isSome_nodeAt?_put {there : List String} (h : (fs.nodeAt? there).isSome = true) :
    ((fs.put here n).nodeAt? there).isSome = true := by
  by_cases hne : there = here
  · rw [hne, nodeAt?_put_self]
    rfl
  · obtain ⟨m, hm⟩ := Option.isSome_iff_exists.mp h
    rw [nodeAt?_put hne hm]
    rfl

/-- A directory stays one if the node was put in no directory's place. -/
theorem isDirectoryAt_put (hfile : fs.isDirectoryAt here = false) {there : List String}
    (h : fs.isDirectoryAt there = true) : (fs.put here n).isDirectoryAt there = true := by
  have hne : there ≠ here := by
    rintro rfl
    rw [h] at hfile
    cases hfile
  unfold isDirectoryAt at h ⊢
  split at h
  · rename_i hd
    rw [nodeAt?_put hne hd]
  · cases h

theorem enter_put {there next : List String} {name : String}
    (h : fs.enter there name = .ok next) : (fs.put here n).enter there name = .ok next := by
  unfold enter at h ⊢
  split at h
  · rename_i hs
    rw [if_pos (isSome_nodeAt?_put hs)]
    exact h
  · cases h

theorem above_put {there next : List String} (h : fs.above there = .ok next) :
    (fs.put here n).above there = .ok next := by
  unfold above at h ⊢
  split at h
  · exact enter_put h
  · exact enter_put h
  · exact h

theorem step_put (hfile : fs.isDirectoryAt here = false) {there next : List String} {part : String}
    (h : fs.step there part = .ok next) : (fs.put here n).step there part = .ok next := by
  unfold step at h ⊢
  cases hd : fs.isDirectoryAt there with
  | false => simp [hd] at h
  | true =>
    simp only [hd, isDirectoryAt_put hfile hd, Bool.not_true, Bool.false_eq_true, ↓reduceIte]
      at h ⊢
    split at h
    · rw [if_pos ‹_›]
      exact h
    rw [if_neg ‹_›]
    split at h
    · rw [if_pos ‹_›]
      exact above_put h
    rw [if_neg ‹_›]
    split at h
    · cases h
    rw [if_neg ‹_›]
    exact enter_put h

/-- Walks lead where they led. -/
theorem foldlM_step_put (hfile : fs.isDirectoryAt here = false) {steps : List String}
    {there next : List String} (h : steps.foldlM (fs.step ·) there = .ok next) :
    steps.foldlM ((fs.put here n).step ·) there = .ok next := by
  induction steps generalizing there with
  | nil => exact h
  | cons part r ih =>
    rw [List.foldlM_cons] at h ⊢
    cases hs : fs.step there part with
    | error e => rw [hs] at h; cases h
    | ok mid =>
      rw [hs] at h
      rw [step_put hfile hs]
      exact ih h

theorem resolve_put (hfile : fs.isDirectoryAt here = false) {path : String} {there : List String}
    (h : fs.resolve path = .ok there) : (fs.put here n).resolve path = .ok there := by
  unfold resolve at h ⊢
  cases hc : check path with
  | error e => rw [hc] at h; cases h
  | ok steps =>
    rw [hc] at h
    exact foldlM_step_put hfile h

end Put

/-! ## A file at a path -/

/-- The path leads to the place, and there is a file with these bytes. -/
structure FileAt (fs : FileSystem) (path : String) (here : List String) (bytes : List UInt8) :
    Prop where
  resolves : fs.resolve path = .ok here
  holds : fs.nodeAt? here = some (.file bytes)

theorem FileAt.lookup {fs : FileSystem} {path : String} {here : List String} {bytes : List UInt8}
    (h : FileAt fs path here bytes) : fs.lookup path = .ok (.file bytes) := by
  unfold FileSystem.lookup
  rw [h.resolves]
  dsimp only [bind, Except.bind]
  rw [h.holds]
  rfl

theorem FileAt.append {fs : FileSystem} {path : String} {here : List String} {bytes : List UInt8}
    (h : FileAt fs path here bytes) (more : List UInt8) :
    FileAt (fs.append here more) path here (bytes ++ more) := by
  have hput : fs.append here more = fs.put here (.file (bytes ++ more)) := by
    rw [FileSystem.append, h.holds]
  have hfile : fs.isDirectoryAt here = false := by rw [isDirectoryAt, h.holds]
  rw [hput]
  exact ⟨resolve_put hfile h.resolves, nodeAt?_put_self⟩

/-- What is made at a path is the last step of it in a directory, and no directory itself. -/
theorem create_cases {fs fs' : FileSystem} {path : String} {here : List String}
    (h : fs.create path = .ok (here, fs')) :
    ∃ steps directory name, check path = .ok (steps ++ [name]) ∧
      steps.foldlM (fs.step ·) (start path) = .ok directory ∧
      fs.isDirectoryAt directory = true ∧ isStay name = false ∧ name ≠ ".." ∧
      name.utf8ByteSize ≤ 255 ∧ here = directory ++ [name] ∧ fs.isDirectoryAt here = false ∧
      fs' = fs.put here (.file []) := by
  unfold create at h
  cases hc : check path with
  | error e => rw [hc] at h; cases h
  | ok all =>
    rw [hc] at h
    cases hw : all.dropLast.foldlM (fs.step ·) (start path) with
    | error e => simp only [bind, Except.bind, hw] at h; cases h
    | ok directory =>
      simp only [bind, Except.bind, hw] at h
      split at h
      · cases h
      rename_i hdir
      split at h
      · cases h
      rename_i hname
      split at h
      · cases h
      rename_i hsize
      split at h
      · cases h
      rename_i hfile
      simp only [Bool.not_eq_true, Bool.not_eq_false', Bool.or_eq_false_iff, beq_eq_false_iff_ne,
        Nat.not_lt] at hdir hname hsize hfile
      have hne : all ≠ [] := by
        rintro rfl
        exact absurd hname.1 (by decide)
      have hall : all.dropLast ++ [all.getLastD ""] = all := by
        rw [List.getLastD_eq_getLast?, List.getLast?_eq_some_getLast hne]
        exact List.dropLast_concat_getLast hne
      cases h
      exact ⟨_, _, _, by rw [hall], hw, hdir, hname.1, hname.2, hsize, rfl, hfile, rfl⟩

/-- A new file is empty and found at its path. -/
theorem FileAt.of_create {fs fs' : FileSystem} {path : String} {here : List String}
    (h : fs.create path = .ok (here, fs')) : FileAt fs' path here [] := by
  obtain ⟨steps, directory, name, hcheck, hwalk, hdir, hstay, hup, hsize, rfl, hfile, rfl⟩ :=
    create_cases h
  refine ⟨?_, nodeAt?_put_self⟩
  have hlast : (fs.put (directory ++ [name]) (.file [])).step directory name =
      .ok (directory ++ [name]) := by
    unfold step
    rw [if_neg (by rw [isDirectoryAt_put hfile hdir]; decide), if_neg (by rw [hstay]; decide),
      if_neg (by simpa using hup), if_neg (by omega), enter, nodeAt?_put_self]
    rfl
  unfold resolve
  rw [hcheck]
  simp only [bind, Except.bind]
  rw [List.foldlM_append, foldlM_step_put hfile hwalk]
  simp only [bind, Except.bind, List.foldlM_cons, hlast]
  rfl

end Volley.FileSystem
