/-!
# Blank characters

The characters with the Unicode property White_Space, and trimming by a character class.
Trimming at the end takes away a suffix that lies in the class (`trimEndWhile_append`).
-/

namespace Volley.Text

/-- The Unicode property White_Space. -/
def isBlank (c : Char) : Bool :=
  let n := c.toNat
  (9 ≤ n && n ≤ 13) || n == 0x20 || n == 0x85 || n == 0xA0 || n == 0x1680 ||
    (0x2000 ≤ n && n ≤ 0x200A) || n == 0x2028 || n == 0x2029 || n == 0x202F || n == 0x205F ||
    n == 0x3000

/-- Drops the characters in the class `p` from the end. -/
def trimEndWhile (p : Char → Bool) (s : List Char) : List Char :=
  (s.reverse.dropWhile p).reverse

def trimStart (s : List Char) : List Char := s.dropWhile isBlank

def trimEnd (s : List Char) : List Char := trimEndWhile isBlank s

def trim (s : List Char) : List Char := trimEnd (trimStart s)

/-- A text without its blank ends. -/
def trimmed (s : String) : String := .ofList (trim s.toList)

/-- Nothing but blanks. -/
def isBlankText (s : List Char) : Bool := s.all isBlank

/-- Trimming takes away a suffix that lies wholly in the class. -/
theorem trimEndWhile_append (p : Char → Bool) (s : List Char) :
    ∃ t, s = trimEndWhile p s ++ t ∧ t.all p := by
  refine ⟨(s.reverse.takeWhile p).reverse, ?_, ?_⟩
  · rw [trimEndWhile, ← List.reverse_append, List.takeWhile_append_dropWhile, List.reverse_reverse]
  · simp [List.all_reverse]

end Volley.Text
