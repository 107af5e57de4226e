import Volley.Text.CaseTable

/-!
# Upper and lower case

Full Unicode case mapping of a text. The lower case of a capital sigma depends on its neighbours:
it is the final form after a cased letter, unless a cased letter follows.
-/

namespace Volley.Text

open Case

/-- Whether the nearest character that is not skipped is a cased letter. -/
def casedAhead (s : List Char) : Bool :=
  match s.dropWhile (inRanges ignorableRanges) with
  | c :: _ => inRanges casedRanges c
  | [] => false

/-- The lower case of one character, sigma apart. -/
def lowerChar (c : Char) : List Char :=
  if c.toNat < 128 then [c.toLower]
  else if c.toNat = 0x130 then ['i', '\u0307']
  else [image lowerRuns c]

/-- Lower case; `before` holds the characters already passed, the nearest first. -/
def lowerFrom (before : List Char) : List Char → List Char
  | [] => []
  | c :: r =>
    let here :=
      if c.toNat = 0x3A3 then
        if casedAhead before && !casedAhead r then ['\u03C2'] else ['\u03C3']
      else lowerChar c
    here ++ lowerFrom (c :: before) r

def lower (s : List Char) : List Char := lowerFrom [] s

/-- The upper case of one character. -/
def upperChar (c : Char) : List Char :=
  if c.toNat < 128 then [c.toUpper]
  else match upperSpecial.find? (·.1 == c.toNat) with
    | some (_, image) => image.map Char.ofNat
    | none => [image upperRuns c]

def upper (s : List Char) : List Char := s.flatMap upperChar

def lowered (s : String) : String := .ofList (lower s.toList)

def uppered (s : String) : String := .ofList (upper s.toList)

end Volley.Text
