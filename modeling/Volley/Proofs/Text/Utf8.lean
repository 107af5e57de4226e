import Volley.Text.Utf8

/-!
# Decoding in pieces, and what was encoded

A line feed ends whatever character is open, so decoding distributes over a cut right behind one
(`decodeLossy_append`), for any bytes. What `encode` wrote is decoded without a fault
(`decodeLossy_encode`).
-/
namespace Volley.Text.Utf8

/-! ## What was read before stays -/

/-- No ASCII byte continues the open character. -/
def Pending.Closed : Pending → Prop
  | .start => True
  | .inside _ _ low _ => 0x80 ≤ low

/-- What a byte between characters does does not depend on what was read. -/
theorem lead_cases (b : Nat) :
    ∃ (more : List (Option Char)) (p : Pending), p.Closed ∧
      ∀ r, Decoder.lead r b = ⟨more ++ r, p⟩ := by
  unfold Decoder.lead
  by_cases h1 : b < 0x80
  · exact ⟨[some (Char.ofNat b)], .start, trivial, fun _ => if_pos h1⟩
  simp only [if_neg h1]
  by_cases h2 : b < 0xC2
  · exact ⟨[none], .start, trivial, fun _ => if_pos h2⟩
  simp only [if_neg h2]
  by_cases h3 : b < 0xE0
  · exact ⟨[], .inside 0 (b - 0xC0) 0x80 0xBF, Nat.le_refl _, fun _ => if_pos h3⟩
  simp only [if_neg h3]
  by_cases h4 : b = 0xE0
  · exact ⟨[], .inside 1 0 0xA0 0xBF, by simp [Pending.Closed], fun _ => if_pos h4⟩
  simp only [if_neg h4]
  by_cases h5 : b = 0xED
  · exact ⟨[], .inside 1 0xD 0x80 0x9F, Nat.le_refl _, fun _ => if_pos h5⟩
  simp only [if_neg h5]
  by_cases h6 : b < 0xF0
  · exact ⟨[], .inside 1 (b - 0xE0) 0x80 0xBF, Nat.le_refl _, fun _ => if_pos h6⟩
  simp only [if_neg h6]
  by_cases h7 : b = 0xF0
  · exact ⟨[], .inside 2 0 0x90 0xBF, by simp [Pending.Closed], fun _ => if_pos h7⟩
  simp only [if_neg h7]
  by_cases h8 : b < 0xF4
  · exact ⟨[], .inside 2 (b - 0xF0) 0x80 0xBF, Nat.le_refl _, fun _ => if_pos h8⟩
  simp only [if_neg h8]
  by_cases h9 : b = 0xF4
  · exact ⟨[], .inside 2 4 0x80 0x8F, Nat.le_refl _, fun _ => if_pos h9⟩
  exact ⟨[none], .start, trivial, fun _ => if_neg h9⟩

theorem lead_append (s r : List (Option Char)) (b : Nat) :
    Decoder.lead (s ++ r) b = ⟨(Decoder.lead s b).read ++ r, (Decoder.lead s b).pending⟩ := by
  obtain ⟨more, p, -, h⟩ := lead_cases b
  rw [h, h, List.append_assoc]

theorem closed_lead (r : List (Option Char)) (b : Nat) : (Decoder.lead r b).pending.Closed := by
  obtain ⟨more, p, hp, h⟩ := lead_cases b
  rw [h]
  exact hp

theorem push_append (s r : List (Option Char)) (p : Pending) (b : UInt8) :
    Decoder.push ⟨s ++ r, p⟩ b =
      ⟨(Decoder.push ⟨s, p⟩ b).read ++ r, (Decoder.push ⟨s, p⟩ b).pending⟩ := by
  cases p with
  | start => exact lead_append s r b.toNat
  | inside owed acc low high =>
    unfold Decoder.push
    dsimp only
    split
    · cases owed <;> rfl
    · exact lead_append (none :: s) r b.toNat

theorem foldl_push_append (bytes : List UInt8) (s r : List (Option Char)) (p : Pending) :
    bytes.foldl Decoder.push ⟨s ++ r, p⟩ =
      ⟨(bytes.foldl Decoder.push ⟨s, p⟩).read ++ r, (bytes.foldl Decoder.push ⟨s, p⟩).pending⟩ := by
  induction bytes generalizing s p with
  | nil => rfl
  | cons b bytes ih => rw [List.foldl_cons, List.foldl_cons, push_append, ih]

theorem finish_append (d : Decoder) (r : List (Option Char)) :
    Decoder.finish ⟨d.read ++ r, d.pending⟩ = r.reverse ++ d.finish := by
  unfold Decoder.finish
  cases d.pending <;> simp

/-- Between characters, the rest is decoded as if it stood alone. -/
theorem finish_foldl_start (bytes : List UInt8) (r : List (Option Char)) :
    (bytes.foldl Decoder.push ⟨r, .start⟩).finish = r.reverse ++ scan bytes := by
  have h := foldl_push_append bytes [] r .start
  rw [List.nil_append] at h
  rw [h, finish_append]
  rfl

/-! ## A line feed -/

theorem closed_push (d : Decoder) (b : UInt8) : (d.push b).pending.Closed := by
  unfold Decoder.push
  split
  · exact closed_lead _ _
  · dsimp only
    split
    · split
      · trivial
      · exact Nat.le_refl _
    · exact closed_lead _ _

theorem closed_foldl (bytes : List UInt8) (d : Decoder) (h : d.pending.Closed) :
    (bytes.foldl Decoder.push d).pending.Closed := by
  induction bytes generalizing d with
  | nil => exact h
  | cons b bytes ih => exact ih _ (closed_push d b)

/-- A line feed is read as itself, whatever was open. -/
theorem push_newline (d : Decoder) (h : d.pending.Closed) :
    ∃ r, d.push 10 = ⟨some '\n' :: r, .start⟩ := by
  obtain ⟨r, p⟩ := d
  cases p with
  | start => exact ⟨r, rfl⟩
  | inside owed acc low high =>
    refine ⟨none :: r, ?_⟩
    have hlow : ¬ (low ≤ (10 : UInt8).toNat ∧ (10 : UInt8).toNat ≤ high) := by
      intro e
      have : 0x80 ≤ low := h
      have := e.1
      simp at this
      omega
    simp only [Decoder.push, if_neg hlow]
    rfl

theorem scan_append (a b : List UInt8) : scan (a ++ 10 :: b) = scan (a ++ [10]) ++ scan b := by
  obtain ⟨r, hr⟩ := push_newline (a.foldl Decoder.push .empty) (closed_foldl a _ trivial)
  simp only [scan, List.foldl_append, List.foldl_cons, List.foldl_nil, hr]
  exact finish_foldl_start b _

theorem scan_newline (a : List UInt8) : ∃ r, scan (a ++ [10]) = r ++ [some '\n'] := by
  obtain ⟨r, hr⟩ := push_newline (a.foldl Decoder.push .empty) (closed_foldl a _ trivial)
  refine ⟨r.reverse, ?_⟩
  simp [scan, List.foldl_append, hr, Decoder.finish]

/-- Decoding distributes over a cut behind a line feed. -/
theorem decodeLossy_append (a b : List UInt8) :
    decodeLossy (a ++ 10 :: b) = decodeLossy (a ++ [10]) ++ decodeLossy b := by
  simp only [decodeLossy, scan_append a b, List.map_append]

theorem decodeLossy_newline (a : List UInt8) : ∃ t, decodeLossy (a ++ [10]) = t ++ ['\n'] := by
  obtain ⟨r, hr⟩ := scan_newline a
  exact ⟨r.map (·.getD '\uFFFD'), by simp [decodeLossy, hr]⟩

/-! ## What was encoded -/

theorem lead_two (r : List (Option Char)) {b : Nat} (h1 : 0xC2 ≤ b) (h2 : b < 0xE0) :
    Decoder.lead r b = ⟨r, .inside 0 (b - 0xC0) 0x80 0xBF⟩ := by
  unfold Decoder.lead
  rw [if_neg (by omega), if_neg (by omega), if_pos (by omega)]

theorem lead_three (r : List (Option Char)) {b : Nat} (h1 : 0xE0 ≤ b) (h2 : b < 0xF0) :
    Decoder.lead r b =
      ⟨r, .inside 1 (b - 0xE0) (if b = 0xE0 then 0xA0 else 0x80)
        (if b = 0xED then 0x9F else 0xBF)⟩ := by
  unfold Decoder.lead
  rw [if_neg (by omega), if_neg (by omega), if_neg (by omega)]
  by_cases ha : b = 0xE0
  · subst ha; rfl
  · by_cases hb : b = 0xED
    · subst hb; rfl
    · rw [if_neg ha, if_neg hb, if_pos (by omega), if_neg ha, if_neg hb]

theorem lead_four (r : List (Option Char)) {b : Nat} (h1 : 0xF0 ≤ b) (h2 : b ≤ 0xF4) :
    Decoder.lead r b =
      ⟨r, .inside 2 (b - 0xF0) (if b = 0xF0 then 0x90 else 0x80)
        (if b = 0xF4 then 0x8F else 0xBF)⟩ := by
  unfold Decoder.lead
  rw [if_neg (by omega), if_neg (by omega), if_neg (by omega), if_neg (by omega),
    if_neg (by omega), if_neg (by omega)]
  by_cases ha : b = 0xF0
  · subst ha; rfl
  · by_cases hb : b = 0xF4
    · subst hb; rfl
    · rw [if_neg ha, if_pos (by omega), if_neg ha, if_neg hb]

theorem push_start (r : List (Option Char)) (b : UInt8) :
    Decoder.push ⟨r, .start⟩ b = Decoder.lead r b.toNat := rfl

theorem push_inside (r : List (Option Char)) (owed acc : Nat) {low high : Nat} {b : UInt8}
    (h : low ≤ b.toNat ∧ b.toNat ≤ high) :
    Decoder.push ⟨r, .inside (owed + 1) acc low high⟩ b =
      ⟨r, .inside owed (acc * 64 + (b.toNat - 0x80)) 0x80 0xBF⟩ := by
  simp only [Decoder.push, if_pos h]

theorem push_last (r : List (Option Char)) (acc : Nat) {low high : Nat} {b : UInt8}
    (h : low ≤ b.toNat ∧ b.toNat ≤ high) :
    Decoder.push ⟨r, .inside 0 acc low high⟩ b =
      ⟨some (Char.ofNat (acc * 64 + (b.toNat - 0x80))) :: r, .start⟩ := by
  simp only [Decoder.push, if_pos h]

theorem toNat_ofNat {n : Nat} (h : n < 256) : (UInt8.ofNat n).toNat = n := by
  rw [UInt8.toNat_ofNat']
  exact Nat.mod_eq_of_lt h

/-- The bytes of a character are read as that character. -/
theorem foldl_push_encodeChar (r : List (Option Char)) (c : Char) :
    (String.utf8EncodeChar c).foldl Decoder.push ⟨r, .start⟩ = ⟨some c :: r, .start⟩ := by
  have hc : Char.ofNat c.val.toNat = c := Char.ofNat_toNat c
  have hv : c.val.toNat < 0xD800 ∨ 0xDFFF < c.val.toNat ∧ c.val.toNat < 0x110000 := c.valid
  have e (n : Nat) (h : n < 256) : (UInt8.ofNat n).toNat = n := toNat_ofNat h
  unfold String.utf8EncodeChar
  generalize c.val.toNat = v at hc hv
  dsimp only
  split
  · rename_i h1
    have h0 := e v (by omega)
    simp only [List.foldl_cons, List.foldl_nil, push_start, h0, Decoder.lead]
    rw [if_pos (by omega), hc]
  split
  · rename_i h1 h2
    have h0 := e (v / 64 % 32 + 192) (by omega)
    have h1 := e (v % 64 + 128) (by omega)
    simp only [List.foldl_cons, List.foldl_nil]
    rw [push_start, h0, lead_two r (by omega) (by omega), push_last _ _ (by omega), h1]
    rw [show (v / 64 % 32 + 192 - 192) * 64 + (v % 64 + 128 - 128) = v by omega, hc]
  split
  · rename_i h1 h2 h3
    have h0 := e (v / 4096 % 16 + 224) (by omega)
    have h1 := e (v / 64 % 64 + 128) (by omega)
    have h2 := e (v % 64 + 128) (by omega)
    simp only [List.foldl_cons, List.foldl_nil]
    rw [push_start, h0, lead_three r (by omega) (by omega),
      push_inside _ _ _ (by rw [h1]; constructor <;> split <;> omega), h1,
      push_last _ _ (by omega), h2]
    rw [show ((v / 4096 % 16 + 224 - 224) * 64 + (v / 64 % 64 + 128 - 128)) * 64 +
      (v % 64 + 128 - 128) = v by omega, hc]
  · rename_i h1 h2 h3
    have h0 := e (v / 262144 % 8 + 240) (by omega)
    have h1 := e (v / 4096 % 64 + 128) (by omega)
    have h2 := e (v / 64 % 64 + 128) (by omega)
    have h3 := e (v % 64 + 128) (by omega)
    simp only [List.foldl_cons, List.foldl_nil]
    rw [push_start, h0, lead_four r (by omega) (by omega),
      push_inside _ _ _ (by rw [h1]; constructor <;> split <;> omega), h1,
      push_inside _ _ _ (by omega), h2, push_last _ _ (by omega), h3]
    rw [show (((v / 262144 % 8 + 240 - 240) * 64 + (v / 4096 % 64 + 128 - 128)) * 64 +
      (v / 64 % 64 + 128 - 128)) * 64 + (v % 64 + 128 - 128) = v by omega, hc]

/-- A newline byte belongs to a newline. -/
theorem newline_mem_encodeChar {c : Char} (h : 10 ∈ String.utf8EncodeChar c) : c = '\n' := by
  have hc : Char.ofNat c.val.toNat = c := Char.ofNat_toNat c
  have hv : c.val.toNat < 0xD800 ∨ 0xDFFF < c.val.toNat ∧ c.val.toNat < 0x110000 := c.valid
  have e {n : Nat} (hn : n < 256) (h : 10 = UInt8.ofNat n) : n = 10 := by
    rw [← toNat_ofNat hn, ← h]
    rfl
  unfold String.utf8EncodeChar at h
  generalize c.val.toNat = v at hc hv h
  dsimp only at h
  split at h
  · have hten := e (by omega) (List.mem_singleton.mp h)
    rw [← hc, hten]
  -- The bytes of a longer sequence are above those of ASCII.
  · exfalso
    split at h
    · simp only [List.mem_cons, List.not_mem_nil, or_false] at h
      rcases h with h | h <;> have := e (by omega) h <;> omega
    split at h
    · simp only [List.mem_cons, List.not_mem_nil, or_false] at h
      rcases h with h | h | h <;> have := e (by omega) h <;> omega
    · simp only [List.mem_cons, List.not_mem_nil, or_false] at h
      rcases h with h | h | h | h <;> have := e (by omega) h <;> omega

theorem newline_mem_encode {s : List Char} (h : 10 ∈ encode s) : '\n' ∈ s := by
  obtain ⟨c, hc, hbyte⟩ := List.mem_flatMap.mp h
  rw [← newline_mem_encodeChar hbyte]
  exact hc

theorem scan_encode (s : List Char) : scan (encode s) = s.map some := by
  induction s with
  | nil => rfl
  | cons c s ih =>
    rw [scan, encode, List.flatMap_cons, List.foldl_append, Decoder.empty, foldl_push_encodeChar,
      finish_foldl_start, ← encode, ih]
    rfl

/-- What was encoded is decoded without a fault. -/
theorem decodeLossy_encode (s : List Char) : decodeLossy (encode s) = s := by
  rw [decodeLossy, scan_encode, List.map_map]
  exact List.map_id' s

end Volley.Text.Utf8
