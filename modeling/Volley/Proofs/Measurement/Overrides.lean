import Mathlib.Algebra.Order.Ring.Int
import Volley.Proofs.Measurement.Figures
import Volley.Proofs.Numeral.Whole
import Volley.Proofs.Options

/-!
# Assigning figures

What an object assigns of a record, number by number. A counter takes any integer of 64 bits without
a sign, a code any integer of 32 bits; another integer, and what is no number, leaves the figure as
it was. The order of the members does not matter, nor do members of other names, and an object that
is applied again finds nothing left to change.

* `Figure.Fits`, `Figure.Refuses`: the integers that a figure takes, and those that it does not.
* `Figure.value?_of_fits`, `Figure.value?_of_refuses`: what a number gives a figure.
* `ShotRecord.overrideEach`: the members applied one after the other, each counted if it assigned.
* `ShotRecord.override_assigns`: what an object does to a record.
-/
namespace Volley

/-! ## Numbers and members -/

namespace Json

/-- The number is the integer, written as one or as a double that holds it. -/
def Number.Denotes : Number → Int → Prop
  | .integer j, i => j = i
  | .real x, i => Numeral.Holds x i

variable {α : Type} {key : String} {value : α} {members others : List (String × α)}

theorem lookup?_eq_some_iff (hnodup : (members.map (·.1)).Nodup) :
    lookup? key members = some value ↔ (key, value) ∈ members := by
  refine ⟨mem_of_lookup?, fun hmem => ?_⟩
  induction members with
  | nil => cases hmem
  | cons e members ih =>
    obtain ⟨hfresh, hrest⟩ := List.nodup_cons.mp hnodup
    rw [lookup?_cons]
    rcases List.mem_cons.mp hmem with rfl | hmem
    · have hnone : lookup? key members = none :=
        lookup?_eq_none.mpr fun e he hkey => hfresh (List.mem_map.mpr ⟨e, he, hkey⟩)
      rw [hnone, Option.none_or, if_pos rfl]
    · rw [ih hrest hmem, Option.some_or]

/-- Where no key is there twice the order of the members does not matter. -/
theorem lookup?_perm (hnodup : (members.map (·.1)).Nodup) (h : others.Perm members)
    (key : String) : lookup? key others = lookup? key members := by
  have hothers : (others.map (·.1)).Nodup := (h.map _).nodup_iff.mpr hnodup
  refine Option.ext fun value => ?_
  rw [lookup?_eq_some_iff hothers, lookup?_eq_some_iff hnodup, h.mem_iff]

end Json

/-! ## Figures -/

namespace Figure

open Json.Number (Denotes)

variable {f : Figure} {n : Json.Number} {i : Int} {v : Json}

/-- Whether the figure is a code, which may be negative; the others count. -/
def isCode : Figure → Bool
  | netCode | protoCode => true
  | _ => false

/-- The integers that the figure takes. -/
def Fits (f : Figure) (i : Int) : Prop :=
  if f.isCode then -2 ^ 31 ≤ i ∧ i < 2 ^ 31 else 0 ≤ i ∧ i < 2 ^ 64

/-- The integers that the figure does not take. -/
def Refuses (f : Figure) (i : Int) : Prop :=
  if f.isCode then i < -2 ^ 31 ∨ 2 ^ 31 ≤ i else i < 0

/-- The integer that a figure's value is. A duration may not be there yet. -/
def integer? : (f : Figure) → f.Value → Option Int
  | intervalReal, x => x.map fun n => n.toNat
  | connectTime, n => some n.toNat
  | sendTime, n => some n.toNat
  | latency, n => some n.toNat
  | receiveTime, n => some n.toNat
  | intervalEvent, n => some n.toNat
  | sizeOut, n => some n.toNat
  | sizeIn, n => some n.toNat
  | netCode, c => some c.toInt
  | protoCode, c => some c.toInt

theorem counter?_of_denotes (h : n.Denotes i) (hlow : 0 ≤ i) (hhigh : i < 2 ^ 64) :
    counter? (.number n) = some (UInt64.ofNat i.toNat) := by
  cases n with
  | integer j =>
    obtain rfl : j = i := h
    exact if_pos hlow
  | real x =>
    have hholds : Numeral.Holds x i := h
    have hmax : i ≤ Numeral.maxU64 := by
      show i ≤ ((2 ^ 64 - 1 : Nat) : Int)
      omega
    rw [counter?, if_pos (hholds.isNonnegative_iff.mpr hlow), hholds.integerIn_nearest,
      Numeral.clamp_of_mem hlow hmax]

theorem counter?_of_negative (h : n.Denotes i) (hi : i < 0) : counter? (.number n) = none := by
  cases n with
  | integer j =>
    obtain rfl : j = i := h
    exact if_neg (by omega)
  | real x =>
    have hholds : Numeral.Holds x i := h
    have hnegative : ¬Numeral.isNonnegative x = true := by
      rw [hholds.isNonnegative_iff]
      omega
    rw [counter?, if_neg hnegative]

/-- A double is brought into 64 bits before it is taken for a code, and that changes nothing. -/
theorem code?_of_denotes (h : n.Denotes i) : code? (.number n) = code32? i := by
  cases n with
  | integer j =>
    obtain rfl : j = i := h
    rfl
  | real x =>
    have hholds : Numeral.Holds x i := h
    have hmax : (Numeral.maxI64 : Int) = 2 ^ 63 - 1 := rfl
    rw [code?, hholds.integerIn_nearest, Numeral.clamp, hmax]
    split
    · rw [code32?, code32?, if_neg (by omega), if_neg (by omega)]
    · split
      · rw [code32?, code32?, if_neg (by omega), if_neg (by omega)]
      · rfl

theorem toNat_ofNat_toNat (hlow : 0 ≤ i) (hhigh : i < 2 ^ 64) :
    ((UInt64.ofNat i.toNat).toNat : Int) = i := by
  have hsmall : i.toNat < 2 ^ 64 := by omega
  rw [UInt64.toNat_ofNat_of_lt' hsmall]
  omega

/-- A number that is a fitting integer gives the figure this integer. -/
theorem value?_of_fits (h : n.Denotes i) (hfits : f.Fits i) :
    ∃ x, f.value? (.number n) = some x ∧ f.integer? x = some i := by
  have hcounter : f.isCode = false → counter? (.number n) = some (UInt64.ofNat i.toNat) ∧
      ((UInt64.ofNat i.toNat).toNat : Int) = i := by
    intro hcode
    rw [Fits, hcode] at hfits
    obtain ⟨hlow, hhigh⟩ := hfits
    exact ⟨counter?_of_denotes h hlow hhigh, toNat_ofNat_toNat hlow hhigh⟩
  have hcode : f.isCode = true → code? (.number n) = some (Int32.ofInt i) ∧
      (Int32.ofInt i).toInt = i := by
    intro hcode
    rw [Fits, hcode] at hfits
    obtain ⟨hlow, hhigh⟩ := hfits
    rw [code?_of_denotes h, code32?, if_pos ⟨hlow, hhigh⟩]
    exact ⟨rfl, Int32.toInt_ofInt_of_le hlow hhigh⟩
  cases f with
  | netCode => exact ⟨_, (hcode rfl).1, congrArg some (hcode rfl).2⟩
  | protoCode => exact ⟨_, (hcode rfl).1, congrArg some (hcode rfl).2⟩
  | intervalReal =>
    exact ⟨_, congrArg (Option.map some) (hcounter rfl).1, congrArg some (hcounter rfl).2⟩
  | _ => exact ⟨_, (hcounter rfl).1, congrArg some (hcounter rfl).2⟩

theorem value?_of_refuses (h : n.Denotes i) (hrefuses : f.Refuses i) :
    f.value? (.number n) = none := by
  have hcounter : f.isCode = false → counter? (.number n) = none := by
    intro hcode
    rw [Refuses, hcode] at hrefuses
    exact counter?_of_negative h hrefuses
  have hcode : f.isCode = true → code? (.number n) = none := by
    intro hcode
    rw [Refuses, hcode] at hrefuses
    rw [code?_of_denotes h, code32?]
    refine if_neg ?_
    simp only [if_true] at hrefuses
    omega
  cases f with
  | netCode => exact hcode rfl
  | protoCode => exact hcode rfl
  | intervalReal => exact congrArg (Option.map some) (hcounter rfl)
  | _ => exact hcounter rfl

theorem value?_of_ne_number (h : ∀ n, v ≠ .number n) : f.value? v = none := by
  cases v with
  | number n => exact absurd rfl (h n)
  | _ => cases f <;> rfl

/-- The object assigns the figure. -/
abbrev Given (f : Figure) (v : Json) : Prop := (f.given? v).isSome = true

theorem given_of_eq_some {x : f.Value} (h : f.given? v = some x) : f.Given v := by
  rw [Given, h]
  rfl

theorem not_given_of_eq_none (h : f.given? v = none) : ¬f.Given v := by
  rw [Given, h]
  exact Bool.false_ne_true

/-! ## Names -/

/-- The figure with the name. -/
def ofName? (key : String) : Option Figure := all.find? fun f => f.name == key

theorem name_inj {g : Figure} : f.name = g.name ↔ f = g := by
  refine ⟨fun h => ?_, congrArg name⟩
  revert h
  cases f <;> cases g <;> decide

theorem ofName?_eq_some_iff {key : String} : ofName? key = some f ↔ f.name = key := by
  constructor
  · intro h
    have hname := List.find?_some h
    simpa using hname
  · rintro rfl
    cases f <;> rfl

end Figure

namespace ShotRecord

open Figure (given? give)

variable {r s : ShotRecord} {v w : Json} {members : List (String × Json)}

/-! ## Records -/

theorem ext_of_read (hread : ∀ f : Figure, f.read r = f.read s) (htag : r.tag = s.tag)
    (hsent : r.sentAt = s.sentAt) : r = s := by
  obtain ⟨⟨_, _, _, _, _, _, _, _, _⟩, _, _, _⟩ := r
  obtain ⟨⟨_, _, _, _, _, _, _, _, _⟩, _, _, _⟩ := s
  simp only [mk.injEq, Figures.mk.injEq]
  exact ⟨⟨hread .connectTime, hread .sendTime, hread .latency, hread .receiveTime,
    hread .intervalEvent, hread .sizeOut, hread .sizeIn, hread .netCode, hread .protoCode⟩,
    hsent, htag, hread .intervalReal⟩

theorem sentAt_override (r : ShotRecord) (v : Json) : (r.override v).1.sentAt = r.sentAt := by
  rw [override_fst]
  refine List.foldlRecOn (motive := fun edited : ShotRecord => edited.sentAt = r.sentAt)
    Figure.all _ rfl fun edited hedited f _ => ?_
  rw [give]
  split
  · exact (f.sentAt_put _ edited).trans hedited
  · exact hedited

theorem foldl_count {α : Type} (p : α → Bool) (xs : List α) (n : Nat) :
    xs.foldl (fun n x => if p x then n + 1 else n) n = n + xs.countP p := by
  induction xs generalizing n with
  | nil => rfl
  | cons x xs ih =>
    rw [List.foldl_cons, ih, List.countP_cons]
    split <;> omega

/-- The figures that an object assigns are counted. -/
theorem override_snd (r : ShotRecord) (v : Json) :
    (r.override v).2 = Figure.all.countP fun f => (f.given? v).isSome := by
  rw [← Nat.zero_add (List.countP _ _), ← foldl_count]
  refine (List.foldl_hom Prod.snd ?_).symm
  rintro ⟨edited, n⟩ f
  have hassign : ((v.get? f.name).bind fun j => f.assign? j edited) =
      (f.given? v).map fun x => f.put x edited := by
    simp only [Figure.assign?_eq, given?, Option.map_bind, Function.comp_def]
  simp only [hassign]
  cases f.given? v <;> rfl

/-- What an object assigns depends on its members of ten names alone. -/
theorem override_congr (h : ∀ f : Figure, w.get? f.name = v.get? f.name) (r : ShotRecord) :
    r.override w = r.override v := by
  simp only [override, h]

/-- Nothing is left to assign when an object is applied again. -/
theorem override_override (r : ShotRecord) (v : Json) :
    (r.override v).1.override v = r.override v := by
  refine Prod.ext (ext_of_read (fun f => ?_) ?_ ?_) ?_
  · rw [read_override, read_override]
    cases f.given? v <;> rfl
  · rw [tag_override]
  · rw [sentAt_override]
  · rw [override_snd, override_snd]

/-! ## Member after member -/

/-- Applies a member if it is for a figure and fits it, and counts it then. -/
def overrideMember : ShotRecord × Nat → String × Json → ShotRecord × Nat
  | (r, n), (key, j) =>
    match (Figure.ofName? key).bind fun f => f.assign? j r with
    | some r => (r, n + 1)
    | none => (r, n)

/-- Applies the members of an object in the order in which they are there. -/
def overrideEach (r : ShotRecord) (members : List (String × Json)) : ShotRecord × Nat :=
  members.foldl overrideMember (r, 0)

/-- A member puts in the figure of its name, or does nothing. -/
theorem overrideMember_cases (r : ShotRecord) (n : Nat) (key : String) (j : Json) :
    (∃ (f : Figure) (x : f.Value), f.name = key ∧ f.value? j = some x ∧
      overrideMember (r, n) (key, j) = (f.put x r, n + 1)) ∨
    ((∀ f : Figure, f.name = key → f.value? j = none) ∧
      overrideMember (r, n) (key, j) = (r, n)) := by
  simp only [overrideMember]
  cases hname : Figure.ofName? key with
  | none =>
    refine .inr ⟨fun f hf => ?_, rfl⟩
    rw [Figure.ofName?_eq_some_iff.mpr hf] at hname
    cases hname
  | some f =>
    have hf : f.name = key := Figure.ofName?_eq_some_iff.mp hname
    simp only [Option.bind_some, Figure.assign?_eq]
    cases hvalue : f.value? j with
    | some x => exact .inl ⟨f, x, hf, hvalue, rfl⟩
    | none =>
      refine .inr ⟨fun g hg => ?_, rfl⟩
      obtain rfl : g = f := Figure.name_inj.mp (hg.trans hf.symm)
      exact hvalue

/-- A member whose key does not come again gives the figure of its name. -/
theorem given?_cons {key : String} {j : Json} (hfresh : key ∉ members.map (·.1)) (f : Figure) :
    f.given? (.object ((key, j) :: members)) =
      if f.name = key then f.value? j else f.given? (.object members) := by
  have hget : Json.get? f.name (.object ((key, j) :: members)) =
      (Json.lookup? f.name members).or (if key = f.name then some j else none) :=
    Json.lookup?_cons f.name (key, j) members
  rw [given?, hget]
  by_cases hname : f.name = key
  · have hnone : Json.lookup? f.name members = none :=
      Json.lookup?_eq_none.mpr fun e he hkey =>
        hfresh (List.mem_map.mpr ⟨e, he, hkey.trans hname⟩)
    rw [hnone, if_pos hname, if_pos hname.symm]
    rfl
  · rw [if_neg hname, if_neg (Ne.symm hname), Option.or_none]
    rfl

theorem given?_eq_none {key : String} (hfresh : key ∉ members.map (·.1)) {f : Figure}
    (hname : f.name = key) : f.given? (.object members) = none := by
  have hnone : Json.lookup? f.name members = none :=
    Json.lookup?_eq_none.mpr fun e he hkey => hfresh (List.mem_map.mpr ⟨e, he, hkey.trans hname⟩)
  have hget : Json.get? f.name (.object members) = none := hnone
  rw [given?, hget]
  rfl

theorem countP_eq_succ {α : Type} {p q : α → Bool} {xs : List α} {a : α} (hnodup : xs.Nodup)
    (hmem : a ∈ xs) (hp : p a = false) (hq : q a = true) (h : ∀ b, b ≠ a → q b = p b) :
    xs.countP q = xs.countP p + 1 := by
  induction xs with
  | nil => cases hmem
  | cons b xs ih =>
    obtain ⟨hfresh, hrest⟩ := List.nodup_cons.mp hnodup
    by_cases hb : b = a
    · subst hb
      have hsame : xs.countP q = xs.countP p := by
        refine List.countP_congr fun c hc => ?_
        rw [h c fun heq => hfresh (heq ▸ hc)]
      rw [List.countP_cons, List.countP_cons, hsame, hp, hq]
      rfl
    · have hmem' : a ∈ xs := (List.mem_cons.mp hmem).resolve_left (Ne.symm hb)
      rw [List.countP_cons, List.countP_cons, ih hrest hmem', h b hb]
      omega

/-- A member that fits is the same as an assignment before the other members. -/
theorem override_cons_taken {key : String} {j : Json} {f : Figure} {x : f.Value}
    (hfresh : key ∉ members.map (·.1)) (hname : f.name = key) (hvalue : f.value? j = some x)
    (r : ShotRecord) : r.override (.object ((key, j) :: members)) =
      (((f.put x r).override (.object members)).1,
        ((f.put x r).override (.object members)).2 + 1) := by
  have hself : f.given? (.object ((key, j) :: members)) = some x := by
    rw [given?_cons hfresh, if_pos hname, hvalue]
  have hnone : f.given? (.object members) = none := given?_eq_none hfresh hname
  have hother : ∀ g, g ≠ f →
      g.given? (.object ((key, j) :: members)) = g.given? (.object members) := by
    intro g hg
    rw [given?_cons hfresh, if_neg fun h => hg (Figure.name_inj.mp (h.trans hname.symm))]
  refine Prod.ext (ext_of_read (fun g => ?_) ?_ ?_) ?_
  · rw [read_override, read_override]
    by_cases hg : g = f
    · subst hg
      rw [hself, hnone]
      exact (Figure.read_put_self g x r).symm
    · rw [hother g hg, Figure.read_put_ne hg]
  · rw [tag_override, tag_override, Figure.tag_put]
  · rw [sentAt_override, sentAt_override, Figure.sentAt_put]
  · rw [override_snd, override_snd]
    refine countP_eq_succ (by decide) f.mem_all ?_ ?_ fun g hg => ?_
    · rw [hnone]
      rfl
    · rw [hself]
      rfl
    · rw [hother g hg]

/-- A member that fits no figure might as well not be there. -/
theorem override_cons_left {key : String} {j : Json} (hfresh : key ∉ members.map (·.1))
    (hnone : ∀ f : Figure, f.name = key → f.value? j = none) (r : ShotRecord) :
    r.override (.object ((key, j) :: members)) = r.override (.object members) := by
  have hsame : ∀ f : Figure,
      f.given? (.object ((key, j) :: members)) = f.given? (.object members) := by
    intro f
    rw [given?_cons hfresh]
    split
    · rename_i hname
      rw [hnone f hname, given?_eq_none hfresh hname]
    · rfl
  refine Prod.ext (ext_of_read (fun f => ?_) ?_ ?_) ?_
  · rw [read_override, read_override, hsame]
  · rw [tag_override, tag_override]
  · rw [sentAt_override, sentAt_override]
  · simp only [override_snd, hsame]

/-- **One member after the other.** Where no key comes twice, the members applied in their order
come to the same as the object looked into for each figure. -/
theorem overrideEach_eq (hnodup : (members.map (·.1)).Nodup) (r : ShotRecord) :
    r.overrideEach members = r.override (.object members) := by
  suffices hrun : ∀ (r : ShotRecord) (n : Nat), members.foldl overrideMember (r, n) =
      ((r.override (.object members)).1, n + (r.override (.object members)).2) by
    rw [overrideEach, hrun, Nat.zero_add]
  induction members with
  | nil =>
    intro r n
    rfl
  | cons e members ih =>
    intro r n
    obtain ⟨key, j⟩ := e
    obtain ⟨hfresh, hrest⟩ := List.nodup_cons.mp hnodup
    rw [List.foldl_cons]
    obtain ⟨f, x, hname, hvalue, hstep⟩ | ⟨hnone, hstep⟩ := overrideMember_cases r n key j
    · rw [hstep, ih hrest, override_cons_taken hfresh hname hvalue]
      refine Prod.ext rfl ?_
      dsimp only
      omega
    · rw [hstep, ih hrest, override_cons_left hfresh hnone]

/-! ## What an object does to a record -/

/-- The record that an object makes of another one, and how many members it takes for that. -/
structure Assigned (v : Json) (r edited : ShotRecord) (applied : Nat) : Prop where
  tag : edited.tag = r.tag
  sentAt : edited.sentAt = r.sentAt
  /-- A figure whose member is a fitting integer becomes this integer. -/
  takes : ∀ (f : Figure) (n : Json.Number) (i : Int), v.get? f.name = some (.number n) →
    n.Denotes i → f.Fits i → f.Given v ∧ f.integer? (f.read edited) = some i
  /-- Another integer is not taken. -/
  refuses : ∀ (f : Figure) (n : Json.Number) (i : Int), v.get? f.name = some (.number n) →
    n.Denotes i → f.Refuses i → ¬f.Given v
  /-- Neither is what is no number. -/
  others : ∀ (f : Figure) (j : Json), v.get? f.name = some j → (∀ n, j ≠ .number n) →
    ¬f.Given v
  absent : ∀ f : Figure, v.get? f.name = none → ¬f.Given v
  /-- What is not taken leaves the figure as it was. -/
  keeps : ∀ f : Figure, ¬f.Given v → f.read edited = f.read r
  counts : applied = (Figure.all.filter fun f => f.Given v).length
  /-- What is no object assigns nothing. -/
  plain : (∀ members, v ≠ .object members) → edited = r ∧ applied = 0

theorem assigned_override (r : ShotRecord) (v : Json) :
    Assigned v r (r.override v).1 (r.override v).2 where
  tag := tag_override r v
  sentAt := sentAt_override r v
  takes f n i hget hn hfits := by
    obtain ⟨x, hvalue, hx⟩ := Figure.value?_of_fits hn hfits
    have hgiven : f.given? v = some x := by
      rw [given?, hget, Option.bind_some, hvalue]
    rw [read_override, hgiven]
    exact ⟨Figure.given_of_eq_some hgiven, hx⟩
  refuses f n i hget hn hrefuses := by
    refine Figure.not_given_of_eq_none ?_
    rw [given?, hget, Option.bind_some, Figure.value?_of_refuses hn hrefuses]
  others f j hget hj := by
    refine Figure.not_given_of_eq_none ?_
    rw [given?, hget, Option.bind_some, Figure.value?_of_ne_number hj]
  absent f hget := by
    refine Figure.not_given_of_eq_none ?_
    rw [given?, hget, Option.bind_none]
  keeps f hgiven := by
    rw [read_override, Option.not_isSome_iff_eq_none.mp hgiven, Option.getD_none]
  counts := by
    rw [override_snd, List.countP_eq_length_filter]
    simp only [Bool.decide_eq_true]
  plain hv := by
    have hnone : ∀ f : Figure, f.given? v = none := by
      intro f
      cases v with
      | object members => exact absurd rfl (hv members)
      | _ => rfl
    refine ⟨ext_of_read (fun f => ?_) (tag_override r v) (sentAt_override r v), ?_⟩
    · rw [read_override, hnone f, Option.getD_none]
    · simp [override_snd, hnone]

/-- **An object assigns the figures that it has a fitting number for, and nothing else.** Applied
again it changes nothing more and counts the same; other members and the order of the members make
no difference, and to apply them one after the other comes to the same. -/
theorem override_assigns (r : ShotRecord) (v : Json) :
    Assigned v r (r.override v).1 (r.override v).2 ∧
    (r.override v).1.override v = r.override v ∧
    (∀ w : Json, (∀ f : Figure, w.get? f.name = v.get? f.name) →
      r.override w = r.override v) ∧
    ∀ members others : List (String × Json), v = .object members →
      (members.map (·.1)).Nodup → others.Perm members →
      r.override (.object others) = r.override v ∧ r.overrideEach others = r.override v := by
  refine ⟨assigned_override r v, override_override r v, fun w hw => override_congr hw r, ?_⟩
  rintro members others rfl hnodup hperm
  have hothers : (others.map (·.1)).Nodup := (hperm.map _).nodup_iff.mpr hnodup
  have hsame : r.override (.object others) = r.override (.object members) :=
    override_congr (w := .object others) (v := .object members)
      (fun f => Json.lookup?_perm hnodup hperm f.name) r
  exact ⟨hsame, (overrideEach_eq hothers r).trans hsame⟩

/-- Three of five members are taken: a text is no number, and one name is not that of a figure. -/
example : ((start "" default).override (.object [("latency", .ofNat 1500),
    ("size_in", .ofReal 12.0), ("proto_code", .ofNat 302), ("unknown", .ofNat 1),
    ("connect_time", .string "fast")])).2 = 3 := by
  decide

end ShotRecord

end Volley
