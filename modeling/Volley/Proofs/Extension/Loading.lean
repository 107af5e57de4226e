import Volley.Extension.Engine
import Volley.Proofs.Script.Effects

/-!
# Why a unit does not load

Loading goes through stages: the name that is looked for, the file, the engine, the run of the text,
and what the text has under the name. What goes wrong in any of them is told as a fault of loading.
The exception is a name whose evaluation throws after the text has run to its end: that is told as a
fault of the script. A reserved word is such a name, and so is one under which a script put a getter
that throws.

All of this is shown of any engine, so it holds of every file, whatever language the engine takes.

* `error_of_bind`, `error_of_orFault`: which step a fault comes from.
* `fault_of_evaluate`: a text in its stages.
* `faults_of_loading`: the category of every fault, and what a name that is none comes to.
* `reservedClass_fault`: a class that goes by a reserved word.
-/
namespace Volley.Extension

/-! ## Steps -/

section
variable {σ α β : Type} {x : Loading σ α} {f : α → Loading σ β} {s s' : σ} {e : Fault} {a : α}

/-- A fault comes from the first step, or from what follows it. -/
theorem error_of_bind (h : (x >>= f) s = (some (.error e), s')) :
    x s = (some (.error e), s') ∨
      ∃ a between, x s = (some (.ok a), between) ∧ f a between = (some (.error e), s') := by
  rw [Loading.bind_eq] at h
  cases hx : x s with
  | mk result between =>
    rw [hx] at h
    rcases result with _ | f' | a
    · cases h
    · cases h
      exact .inl rfl
    · exact .inr ⟨a, between, rfl, h⟩

variable {asked : Asked σ α} {fault : String → Fault}

theorem error_of_orFault (h : asked.orFault fault s = (some (.error e), s')) :
    ∃ text, asked s = (some (.error text), s') ∧ e = fault text := by
  unfold Asked.orFault at h
  cases hasked : asked s with
  | mk answer after =>
    rw [hasked] at h
    rcases answer with _ | text | a <;> cases h
    exact ⟨text, rfl, rfl⟩

theorem ok_of_orFault (h : asked.orFault fault s = (some (.ok a), s')) :
    asked s = (some (.ok a), s') := by
  unfold Asked.orFault at h
  cases hasked : asked s with
  | mk answer after =>
    rw [hasked] at h
    rcases answer with _ | text | a <;> cases h
    rfl

theorem orFault_of_ok (h : asked s = (some (.ok a), s')) :
    asked.orFault fault s = (some (.ok a), s') := by
  unfold Asked.orFault
  rw [h]
  rfl

end

/-! ## Stages -/

variable {σ ρ : Type} {b : Backend σ ρ} {spec : Spec} {fs : FileSystem} {s : σ} {f : Fault}

namespace Backend

/-- An engine runs a text to its end, which leaves the context `ran`. -/
def RunsText (b : Backend σ ρ) (text : List Char) (s ran : σ) : Prop :=
  ∃ ready, b.register s = (some (.ok ⟨⟩), ready) ∧ b.run text ready = (some (.ok ⟨⟩), ran)

/-- Evaluating the expression that asks for a name throws. -/
def Throws (b : Backend σ ρ) (name : String) (s : σ) : Prop :=
  ∃ text, (b.resolve name s).1 = some (.error text)

/-- A text comes to a fault because a step of the engine throws, or because of what it has under the
name. -/
theorem fault_of_evaluate {text : List Char} {s' : σ}
    (h : b.evaluate spec text s = (some (.error f), s')) :
    f.kind = .extensionLoad ∨ isIdentifier spec.shape.symbol = true ∧
      ∃ ran, b.RunsText text s ran ∧ b.Throws spec.shape.symbol ran := by
  rcases error_of_bind h with h | ⟨_, ready, hready, h⟩
  · obtain ⟨text, -, rfl⟩ := error_of_orFault h
    exact .inl rfl
  rcases error_of_bind h with h | ⟨_, ran, hran, h⟩
  · obtain ⟨text, -, rfl⟩ := error_of_orFault h
    exact .inl rfl
  rcases error_of_bind h with h | ⟨found, looked, -, h⟩
  · unfold lookup at h
    split at h
    · rename_i hname
      obtain ⟨text, hthrown, rfl⟩ := error_of_orFault h
      exact .inr ⟨hname, ran, ⟨ready, ok_of_orFault hready, ok_of_orFault hran⟩, text,
        congrArg Prod.fst hthrown⟩
    · cases h
  -- the name was evaluated: the fault can only be that of a missing entry
  · cases found with
    | none =>
      cases h
      exact .inl rfl
    | some r =>
      rcases error_of_bind h with h | ⟨context, _, hcontext, h⟩
      · cases h
      · split at h
        · cases h
        · cases h
          exact .inl rfl

/-- A name that throws after the text has run is a fault of the script. -/
theorem evaluate_of_throws {text : List Char} {ran : σ} {shown : String}
    (hname : isIdentifier spec.shape.symbol = true) (hruns : b.RunsText text s ran)
    (hthrows : (b.resolve spec.shape.symbol ran).1 = some (.error shown)) :
    (b.evaluate spec text s).1 = some (.error (unresolved spec.shape.symbol shown)) := by
  obtain ⟨ready, hregister, hrun⟩ := hruns
  rw [evaluate, Loading.bind_eq, orFault_of_ok hregister]
  dsimp only
  rw [Loading.bind_eq, orFault_of_ok hrun]
  dsimp only
  rw [Loading.bind_eq, lookup, if_pos hname, Asked.orFault]
  dsimp only
  rw [hthrows]
  rfl

/-! ## Units -/

theorem kind_of_readSource {path : String} (h : readSource fs path = .error f) :
    f.kind = .extensionLoad := by
  unfold readSource at h
  split at h <;> cases h <;> rfl

/-- The unit's name is an identifier and its file runs to its end, but evaluating the name
throws. -/
def Unspeakable (b : Backend σ ρ) (spec : Spec) (fs : FileSystem) (s : σ) : Prop :=
  isIdentifier spec.shape.symbol = true ∧ ∃ text ran, readSource fs spec.path = .ok text ∧
    b.start ("ext-" ++ spec.identity) = .ok ⟨⟩ ∧ b.RunsText text s ran ∧
    b.Throws spec.shape.symbol ran

/-- The name is looked at before anything else. -/
theorem load_of_invalid (h : isIdentifier spec.shape.symbol = false) (fs : FileSystem) (s : σ) :
    b.load spec fs s = (.error spec.invalidName, s) := by
  unfold load
  rw [h]
  rfl

theorem fault_of_load (h : (b.load spec fs s).1 = .error f) :
    f.kind = .extensionLoad ∨ b.Unspeakable spec fs s := by
  unfold load at h
  split at h
  · cases h
    exact .inl rfl
  · cases hread : readSource fs spec.path with
    | error e =>
      rw [hread] at h
      cases h
      exact .inl (kind_of_readSource hread)
    | ok text =>
      rw [hread] at h
      dsimp only at h
      split at h
      · cases h
        exact .inl rfl
      · rename_i _ hstart
        cases heval : b.evaluate spec text s with
        | mk result s' =>
          rw [heval] at h
          rcases result with _ | f' | entry <;> cases h
          · exact .inl rfl
          · rcases fault_of_evaluate heval with hkind | ⟨hname, ran, hruns, hthrows⟩
            · exact .inl hkind
            · exact .inr ⟨hname, text, ran, hread, hstart, hruns, hthrows⟩

theorem load_of_throws {text : List Char} {ran : σ} {shown : String}
    (hname : isIdentifier spec.shape.symbol = true) (hread : readSource fs spec.path = .ok text)
    (hstart : b.start ("ext-" ++ spec.identity) = .ok ⟨⟩) (hruns : b.RunsText text s ran)
    (hthrows : (b.resolve spec.shape.symbol ran).1 = some (.error shown)) :
    (b.load spec fs s).1 = .error (unresolved spec.shape.symbol shown) := by
  have hidentifier : (!isIdentifier spec.shape.symbol) = false := by rw [hname]; rfl
  have heval := evaluate_of_throws hname hruns hthrows
  unfold load
  rw [hidentifier, hread, hstart]
  show (b.evaluate spec text s).1.getD _ = _
  rw [heval]
  rfl

end Backend

/-- **A unit that does not load fails with a fault of loading.** For a name that is no identifier it
is the same one whatever the file holds, and the engine is not asked for anything. In all other
cases as well the category is that of loading, with one exception: where the file runs to its end
and evaluating the name throws, it is told as a fault of the script. -/
theorem faults_of_loading {σ ρ : Type} (b : Backend σ ρ) (spec : Spec) :
    (isIdentifier spec.shape.symbol = false →
      ∀ fs s, b.load spec fs s = (.error spec.invalidName, s)) ∧
    ∀ fs s,
      (¬ b.Unspeakable spec fs s → ∀ f, (b.load spec fs s).1 = .error f →
        f.kind.category = "EXTENSION_LOAD") ∧
      (b.Unspeakable spec fs s → ∃ f : Fault, (b.load spec fs s).1 = .error f ∧
        f.kind.category = "EXTENSION") := by
  refine ⟨Backend.load_of_invalid, fun fs s => ⟨fun hspeakable f hfault => ?_, fun h => ?_⟩⟩
  · rcases Backend.fault_of_load hfault with hkind | h
    · rw [hkind]
      rfl
    · exact absurd h hspeakable
  · obtain ⟨hname, text, ran, hread, hstart, hruns, shown, hthrows⟩ := h
    exact ⟨_, Backend.load_of_throws hname hread hstart hruns hthrows, rfl⟩

/-! ## A class called if -/

/-- The faults of an engine of a gun are those of its script engine. -/
theorem engine_load_eq_error_iff {limit : Span} {w : World} :
    (Engine.load spec limit fs w).1 = .error f ↔
      (treeEngine.load spec fs { Script.Memory.start limit with world := w }).1 = .error f := by
  unfold Engine.load ScriptUnit.load
  dsimp only
  cases (treeEngine.load spec fs { Script.Memory.start limit with world := w }).1 with
  | error g => simp [Except.map]
  | ok r => simp [Except.map]

def emptyModule : FileSystem := .ofList [("m.js", .file (Text.Utf8.bytesOf "[]"))]

def quietMachine : Script.Machine := { Script.Memory.start ⟨11, 0⟩ with world := .quiet 8 }

/-- A class in a module that declares nothing. -/
def classSpec (name : String) : Spec := ⟨"m.js", "unit", "id", .class name⟩

theorem readSource_emptyModule : readSource emptyModule "m.js" = .ok ['[', ']'] :=
  ok_of_toOption (by decide +kernel)

/-- The empty module changes nothing. -/
theorem run_emptyModule (m : Script.Machine) :
    treeEngine.run ['[', ']'] m = (some (.ok ⟨⟩), m) := by
  have hlength : (Json.parse (.ofList ['[', ']'])).toOption.map
      (fun tree => (Script.Module.ofTree tree).length) = some 0 := by decide +kernel
  obtain ⟨tree, hparse, hnil⟩ := Option.map_eq_some_iff.mp hlength
  show runText ['[', ']'] m = _
  rw [runText, ok_of_toOption hparse]
  dsimp only
  rw [List.length_eq_zero_iff.mp hnil]
  rfl

theorem speakable_Gun : ¬ treeEngine.Unspeakable (classSpec "Gun") emptyModule quietMachine := by
  rintro ⟨-, text, ran, hread, -, ⟨ready, hregister, hrun⟩, shown, hthrown⟩
  cases readSource_emptyModule.symm.trans hread
  cases hregister
  cases (run_emptyModule _).symm.trans hrun
  have hresolve : ((treeEngine.resolve "Gun" quietMachine).1.bind (·.toOption)) = some none := by
    decide +kernel
  rw [show (treeEngine.resolve "Gun" quietMachine).1 = _ from hthrown] at hresolve
  cases hresolve

theorem unspeakable_if (m : Script.Machine) :
    treeEngine.Unspeakable (classSpec "if") emptyModule m :=
  ⟨by decide, ['[', ']'], m, readSource_emptyModule, rfl, ⟨m, rfl, run_emptyModule m⟩,
    "SyntaxError: " ++ reservedFault "if", rfl⟩

theorem faults_of_loading_emptyModule :
    (isIdentifier "a.b" = false ∧
      ∀ fs s, treeEngine.load (classSpec "a.b") fs s =
        (.error (classSpec "a.b").invalidName, s)) ∧
    (¬ treeEngine.Unspeakable (classSpec "Gun") emptyModule quietMachine ∧
      ∃ f, (treeEngine.load (classSpec "Gun") emptyModule quietMachine).1 = .error f ∧
        f.kind.category = "EXTENSION_LOAD") ∧
    (treeEngine.Unspeakable (classSpec "if") emptyModule quietMachine ∧
      ∃ f, (treeEngine.load (classSpec "if") emptyModule quietMachine).1 = .error f ∧
        f.kind.category = "EXTENSION") := by
  obtain ⟨hinvalid, -⟩ := faults_of_loading treeEngine (classSpec "a.b")
  obtain ⟨-, hGun⟩ := faults_of_loading treeEngine (classSpec "Gun")
  obtain ⟨-, hif⟩ := faults_of_loading treeEngine (classSpec "if")
  have hname : isIdentifier "a.b" = false := by decide
  obtain ⟨f, hf⟩ :
      ∃ f, (treeEngine.load (classSpec "Gun") emptyModule quietMachine).1 = .error f :=
    error_of_toOption (by decide +kernel)
  exact ⟨⟨hname, hinvalid hname⟩, ⟨speakable_Gun, f, hf, (hGun _ _).1 speakable_Gun f hf⟩,
    unspeakable_if quietMachine, (hif _ _).2 (unspeakable_if quietMachine)⟩

/-- The file is there and its module runs to its end, and the error is not one of loading. -/
theorem reservedClass_fault :
    ∃ f, (Engine.load (classSpec "if") ⟨11, 0⟩ emptyModule (.quiet 8)).1 = .error f ∧
      f.kind.category ≠ "EXTENSION_LOAD" ∧
      f.message = "Failed to resolve 'if': SyntaxError: unexpected token 'if', " ++
        "primary expression at line 1, col 8" := by
  have hload : (treeEngine.load (classSpec "if") emptyModule quietMachine).1 =
      .error (unresolved "if" ("SyntaxError: " ++ reservedFault "if")) :=
    Backend.load_of_throws (by decide) readSource_emptyModule rfl
      ⟨quietMachine, rfl, run_emptyModule quietMachine⟩ rfl
  exact ⟨_, engine_load_eq_error_iff.mpr hload, by decide, by decide⟩

end Volley.Extension
