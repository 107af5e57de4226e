import Mathlib.Algebra.Order.Ring.Int
import Volley.Gun.Basic

/-!
# Time limits of guns

Three places read the option `timeout`: the constructors of the HTTP gun and of the SQL gun, and the
setup of a script gun. Each checks that it is a number above zero and makes a span of it, which
stops the program if the number is too large; the check does not look at that. Nothing else about
the options stops the program while a gun is built or a script gun is set up. The setup of the SQL
gun hands its limit to the driver, of which nothing is told here.

* `ofSeconds?_eq_none_iff`: the numbers that are too large for a span, exactly.
* `Options.Overlong`: a time limit that passes the check and is too large.
* `panics_iff_overlong`: when building a gun or setting it up stops the program.
* `overlong_stops`: a time limit that does.
-/
namespace Volley

/-! ## Seconds and spans -/

namespace Numeral

/-- The magnitude of a double is below 2^53 units in its last place. -/
theorem mantissa_of_classify {bits : UInt64} {negative : Bool} {b : Binary}
    (h : classify bits = .finite negative b) : b.mantissa < 2 ^ 53 := by
  have hfraction : bits.toNat % 0x10000000000000 < 0x10000000000000 :=
    Nat.mod_lt _ (by decide)
  simp only [classify] at h
  split at h
  · split at h <;> cases h
  · split at h
    · cases h
      exact Nat.lt_trans hfraction (by decide)
    · cases h
      show 0x10000000000000 + bits.toNat % 0x10000000000000 < 2 ^ 53
      omega

theorem Ratio.roundEven_le (r : Ratio) : r.roundEven ≤ r.num / r.den + 1 := by
  unfold roundEven
  dsimp only
  split
  · exact Nat.le_refl _
  · split
    · exact Nat.le_succ _
    · split
      · exact Nat.le_succ _
      · exact Nat.le_refl _

theorem Ratio.roundEven_of_den_eq_one {r : Ratio} (h : r.den = 1) : r.roundEven = r.num := by
  simp [roundEven, h, Nat.mod_one]

end Numeral

namespace Span

open Numeral (Binary Ratio)

variable {b : Binary}

theorem secondsToNanos_eq (b : Binary) :
    secondsToNanos b = (Ratio.mk (b.ratio.num * 1000000000) b.ratio.den).roundEven := rfl

theorem ofSeconds?_eq_none_iff_nanos :
    ofSeconds? b = none ↔ 2 ^ 64 * 1000000000 ≤ secondsToNanos b := by
  rw [ofSeconds?]
  generalize secondsToNanos b = n
  have hsecs : (ofNanos n).secs = n / 1000000000 := rfl
  have hmax : Numeral.maxU64 = 2 ^ 64 - 1 := rfl
  simp only [hsecs, hmax, ite_eq_right_iff, reduceCtorEq, imp_false]
  omega

/-- A number of seconds is too large for a span exactly from 2^64 on: doubles of that size are
integers, so nothing is rounded up to the bound. -/
theorem ofSeconds?_eq_none_iff (h : b.mantissa < 2 ^ 53) :
    ofSeconds? b = none ↔ 2 ^ 64 * b.ratio.den ≤ b.ratio.num := by
  rw [ofSeconds?_eq_none_iff_nanos, secondsToNanos_eq]
  by_cases hexponent : 0 ≤ b.exponent
  · have hden : b.ratio.den = 1 := by rw [Binary.ratio, Ratio.ofBinary, if_pos hexponent]
    have hexact : (Ratio.mk (b.ratio.num * 1000000000) b.ratio.den).roundEven =
        b.ratio.num * 1000000000 := Ratio.roundEven_of_den_eq_one hden
    rw [hexact, hden]
    omega
  · have hratio : b.ratio = ⟨b.mantissa, Nat.pow 2 (-b.exponent).toNat⟩ := by
      rw [Binary.ratio, Ratio.ofBinary, if_neg hexponent]
    have hden : 0 < b.ratio.den := by
      rw [hratio]
      exact Nat.pow_pos (by decide)
    have hnum : b.ratio.num < 2 ^ 53 := by
      rw [hratio]
      exact h
    have hround := Ratio.roundEven_le ⟨b.ratio.num * 1000000000, b.ratio.den⟩
    have hquotient := Nat.div_le_self (b.ratio.num * 1000000000) b.ratio.den
    refine iff_of_false (fun hlarge => ?_) (fun hlarge => ?_)
    · dsimp only at hround
      omega
    · omega

theorem mantissa_of_positive? {x : Float} (h : positive? x = some b) : b.mantissa < 2 ^ 53 := by
  rw [positive?] at h
  cases hclass : Numeral.classify x.toBits with
  | nan =>
    rw [hclass] at h
    cases h
  | infinite negative =>
    rw [hclass] at h
    cases h
  | finite negative magnitude =>
    rw [hclass] at h
    cases negative with
    | true => cases h
    | false =>
      dsimp only at h
      split at h
      · cases h
      · cases h
        exact Numeral.mantissa_of_classify hclass

end Span

/-! ## The option -/

namespace Options

variable {o : Options}

/-- The fault of an option that has to be there and is not. -/
def missing (key : String) : Fault := .gunConfig ("Missing key: " ++ key)

/-- A required option is there, or its absence is the fault. -/
theorem require_cases (o : Options) (key : String) :
    (o.contains key = true ∧ ∃ v, o.require key = .ok v) ∨
      (o.contains key = false ∧ o.require key = .error (missing key)) := by
  unfold contains require
  cases o.get? key with
  | none => exact .inr ⟨rfl, rfl⟩
  | some v => exact .inl ⟨rfl, v, rfl⟩

theorem exists_require_iff {key : String} :
    (∃ v, o.require key = .ok v) ↔ o.contains key = true := by
  obtain ⟨hthere, v, hv⟩ | ⟨hgone, hfault⟩ := o.require_cases key
  · exact iff_of_true ⟨v, hv⟩ hthere
  · simp [hgone, hfault]

theorem readD_eq_ok_iff {α : Type} {key : String} {reader : String → Except String α}
    {fallback x : α} : o.readD key reader fallback = .ok x ↔
      (∃ raw, o.get? key = some raw ∧ reader (Text.trimmed raw) = .ok x) ∨
        (o.get? key = none ∧ x = fallback) := by
  unfold readD contains read require
  cases o.get? key with
  | none => simp [eq_comm]
  | some raw =>
    cases hreader : reader (Text.trimmed raw) <;>
      simp [hreader, bind, Except.bind, pure, Except.pure]

/-- The time limit is a finite number above zero, and no span holds so many seconds. -/
def Overlong (o : Options) : Prop :=
  ∃ raw x b, o.get? "timeout" = some raw ∧ Reading.real (Text.trimmed raw) = .ok x ∧
    Span.positive? x = some b ∧ 2 ^ 64 * b.ratio.den ≤ b.ratio.num

end Options

theorem Abort.lift_eq_ok_iff {α : Type} {r : Except Fault α} {a : α} :
    Abort.lift r = .ok a ↔ r = .ok a := by
  cases r <;> simp [Abort.lift, Except.mapError]

theorem Abort.lift_ne_panic {α : Type} {r : Except Fault α} {message : String} :
    Abort.lift r ≠ .error (.panic message) := by
  cases r <;> simp [Abort.lift, Except.mapError]

namespace Gun

variable {o : Options} {owner message : String}

theorem demandSpan_panics_iff {s : Option Span} :
    demandSpan s = .error (.panic message) ↔ message = spanPanic ∧ s = none := by
  cases s with
  | some s =>
    refine iff_of_false (fun h => ?_) (fun h => ?_)
    · cases h
    · cases h.2
  | none =>
    have hthrown : demandSpan none = .error (.panic spanPanic) := rfl
    simp [hthrown, eq_comm]

theorem limitOf_panics_iff {p : Option Numeral.Binary} :
    limitOf owner p = .error (.panic message) ↔
      message = spanPanic ∧ ∃ b, p = some b ∧ Span.ofSeconds? b = none := by
  cases p with
  | none =>
    refine iff_of_false (fun h => ?_) (fun h => ?_)
    · cases h
    · obtain ⟨-, b, hb, -⟩ := h
      cases hb
  | some b => simpa [limitOf] using demandSpan_panics_iff

/-- A time that may be taken where the option is missing. -/
def IsSpan (fallback : Nat) : Prop :=
  ∃ s, (Span.positive? (Float.ofNat fallback)).bind Span.ofSeconds? = some s

/-- Only a time limit that is too large for a span stops the program. -/
theorem timeLimit_panics_iff {fallback : Nat} (hfallback : IsSpan fallback) :
    timeLimit o owner fallback = .error (.panic message) ↔ message = spanPanic ∧ o.Overlong := by
  rw [timeLimit, bind_eq_error_iff, or_iff_right Abort.lift_ne_panic]
  simp only [limitOf_panics_iff, Abort.lift_eq_ok_iff, Options.readD_eq_ok_iff]
  constructor
  · rintro ⟨x, ⟨raw, hraw, hx⟩ | ⟨-, rfl⟩, hmessage, b, hb, hspan⟩
    · have hlarge := (Span.ofSeconds?_eq_none_iff (Span.mantissa_of_positive? hb)).mp hspan
      exact ⟨hmessage, raw, x, b, hraw, hx, hb, hlarge⟩
    · obtain ⟨s, hs⟩ := hfallback
      rw [hb, Option.bind_some, hspan] at hs
      cases hs
  · rintro ⟨hmessage, raw, x, b, hraw, hx, hb, hlarge⟩
    have hspan := (Span.ofSeconds?_eq_none_iff (Span.mantissa_of_positive? hb)).mpr hlarge
    exact ⟨x, .inl ⟨raw, hraw, hx⟩, hmessage, b, hb, hspan⟩

theorem isSpan_http : IsSpan HttpGun.defaultTimeout := ⟨⟨11, 0⟩, by decide⟩

theorem isSpan_sql : IsSpan SqlGun.defaultTimeout := ⟨⟨30, 0⟩, by decide⟩

theorem isSpan_script : IsSpan ScriptGun.defaultTimeout := isSpan_http

/-! ## Guns -/

/-- What is made with a time limit is made, or fails as the limit does. -/
theorem limited_panics_iff {α : Type} {fallback : Nat} (hfallback : IsSpan fallback)
    (make : Span → α) :
    (do return make (← timeLimit o owner fallback)) = .error (.panic message) ↔
      message = spanPanic ∧ o.Overlong := by
  rw [bind_eq_error_iff, timeLimit_panics_iff hfallback]
  refine or_iff_left ?_
  rintro ⟨limit, -, h⟩
  cases h

theorem http_panics_iff : HttpGun.build o = .error (.panic message) ↔
    o.contains "base_address" = true ∧ message = spanPanic ∧ o.Overlong := by
  rw [HttpGun.build, bind_eq_error_iff, or_iff_right Abort.lift_ne_panic]
  simp only [limited_panics_iff isSpan_http, Abort.lift_eq_ok_iff, exists_and_right,
    Options.exists_require_iff]

/-- The size of the pool, if it is given, is a number above zero. -/
def HasPoolSize (o : Options) : Prop :=
  ∃ n, o.readD "pool_size" (Reading.nat Numeral.maxU32) SqlGun.defaultPoolSize = .ok n ∧ n ≠ 0

theorem sql_panics_iff : SqlGun.build o = .error (.panic message) ↔
    (o.contains "db" = true ∧ HasPoolSize o) ∧ message = spanPanic ∧ o.Overlong := by
  rw [SqlGun.build, bind_eq_error_iff, or_iff_right Abort.lift_ne_panic,
    ← Options.exists_require_iff]
  constructor
  · rintro ⟨address, haddress, h⟩
    obtain ⟨n, hn, h⟩ := (bind_eq_error_iff.mp h).resolve_left Abort.lift_ne_panic
    by_cases hzero : n = 0
    · rw [if_pos hzero] at h
      cases h
    · rw [if_neg hzero] at h
      exact ⟨⟨⟨address, Abort.lift_eq_ok_iff.mp haddress⟩, n, Abort.lift_eq_ok_iff.mp hn, hzero⟩,
        (limited_panics_iff isSpan_sql _).mp h⟩
  · rintro ⟨⟨⟨address, haddress⟩, n, hn, hzero⟩, hlimit⟩
    refine ⟨address, Abort.lift_eq_ok_iff.mpr haddress, bind_eq_error_iff.mpr (.inr ?_)⟩
    refine ⟨n, Abort.lift_eq_ok_iff.mpr hn, ?_⟩
    rw [if_neg hzero]
    exact (limited_panics_iff isSpan_sql _).mpr hlimit

/-- The gun of a kind is built with a time limit, and nothing before the limit fails. -/
def ReadsLimit (o : Options) : GunKind → Prop
  | .http => o.contains "base_address" = true
  | .sql => o.contains "db" = true ∧ HasPoolSize o
  | _ => False

theorem build_panics_iff (kind : GunKind) : build kind o = .error (.panic message) ↔
    ReadsLimit o kind ∧ message = spanPanic ∧ o.Overlong := by
  have hlift : ∀ {α : Type} (r : Except Fault α) (f : α → Gun),
      (Abort.lift r).map f = .error (.panic message) ↔ False := by
    intro α r f
    cases r <;> simp [Abort.lift, Except.mapError, Except.map]
  have hmap : ∀ {α : Type} (r : Except Abort α) (f : α → Gun),
      r.map f = .error (.panic message) ↔ r = .error (.panic message) := by
    intro α r f
    cases r <;> simp [Except.map]
  cases kind with
  | http => exact (hmap _ _).trans http_panics_iff
  | sql => exact (hmap _ _).trans sql_panics_iff
  | _ => exact (hlift _ _).trans (by simp [ReadsLimit])

theorem setup_panics_iff (g : ScriptGun) (fs : FileSystem) (w : World) :
    (g.setup fs w).1 = .error (.panic message) ↔ message = spanPanic ∧ g.options.Overlong := by
  have hlimit : timeLimit g.options "Script fetch timeout" ScriptGun.defaultTimeout =
      .error (.panic message) ↔ message = spanPanic ∧ g.options.Overlong :=
    timeLimit_panics_iff isSpan_script
  rw [← hlimit, ScriptGun.setup]
  cases timeLimit g.options "Script fetch timeout" ScriptGun.defaultTimeout with
  | error a => simp
  | ok limit =>
    refine iff_of_false (fun h => ?_) (fun h => ?_)
    · dsimp only at h
      split at h
      · cases h
      · exact Abort.lift_ne_panic h
    · cases h

/-- **Only an overlong time limit stops the program.** Building a gun of any kind ends in a gun or
in a fault, unless the time limit is read and is too large for a span; so does the setup of a script
gun, where the limit is read first. Of the numbers that pass the check just those of 2^64 seconds
and more are too large. -/
theorem panics_iff_overlong (kind : GunKind) (o : Options) (g : ScriptGun) (fs : FileSystem)
    (w : World) (message : String) (seconds : Float) :
    (build kind o = .error (.panic message) ↔
      ReadsLimit o kind ∧ message = spanPanic ∧ o.Overlong) ∧
    ((g.setup fs w).1 = .error (.panic message) ↔ message = spanPanic ∧ g.options.Overlong) ∧
    (∀ b, Span.positive? seconds = some b →
      (Span.ofSeconds? b = none ↔ 2 ^ 64 * b.ratio.den ≤ b.ratio.num)) := by
  refine ⟨build_panics_iff kind, setup_panics_iff g fs w, fun b hb => ?_⟩
  exact Span.ofSeconds?_eq_none_iff (Span.mantissa_of_positive? hb)

/-- Options of an HTTP gun and of a custom gun, with a time limit of 10^20 seconds. -/
def overlongOptions : Options :=
  .ofList [("base_address", "http://h/"), ("module_path", "."), ("module_name", "m"),
    ("timeout", "1e20")]

theorem options_of_build {kind : GunKind} {g : ScriptGun} (h : ScriptGun.build kind o = .ok g) :
    g.options = o := by
  obtain ⟨path, -, h⟩ := ok_of_bind h
  obtain ⟨name, -, h⟩ := ok_of_bind h
  obtain ⟨role, -, h⟩ := ok_of_bind h
  cases h
  rfl

/-- A time limit that is a finite number above zero, and no span: to build the HTTP gun with it
stops the program, and so does the setup of the custom gun that is built with it. -/
theorem overlong_stops :
    build .http overlongOptions = .error (.panic spanPanic) ∧
    ∃ g, build .custom overlongOptions = .ok (.script g) ∧ ∀ (fs : FileSystem) (w : World),
      (g.setup fs w).1 = .error (.panic spanPanic) := by
  have hreal : (Reading.real (Text.trimmed "1e20")).toOption.bind Span.positive? =
      some ⟨0x15AF1D78B58C40, 14, false⟩ := by decide +kernel
  obtain ⟨x, hx, hb⟩ := Option.bind_eq_some_iff.mp hreal
  have hoverlong : overlongOptions.Overlong :=
    ⟨"1e20", x, _, by decide +kernel, ok_of_toOption hx, hb, by decide +kernel⟩
  have hbase : overlongOptions.contains "base_address" = true := by decide +kernel
  have hcustom : (ScriptGun.build .custom overlongOptions).toOption.isSome = true := by
    decide +kernel
  obtain ⟨g, hg⟩ := Option.isSome_iff_exists.mp hcustom
  have hbuilt := ok_of_toOption hg
  have hgun : build .custom overlongOptions = .ok (.script g) :=
    congrArg (fun built => (Abort.lift built).map script) hbuilt
  refine ⟨(build_panics_iff .http).mpr ⟨hbase, rfl, hoverlong⟩, g, hgun, fun fs w => ?_⟩
  exact (setup_panics_iff g fs w).mpr ⟨rfl, options_of_build hbuilt ▸ hoverlong⟩

end Gun

end Volley
