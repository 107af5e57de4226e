/-!
# Terminal styles

A style is a set of terminal attributes. Painting puts an opening escape before the text and a
reset after it, and repeats the opening after each reset inside the text. A plain style leaves the
text alone, and so does a terminal that takes no escapes.
-/

namespace Volley

inductive Color where
  | red | green | yellow | blue | magenta | cyan | brightRed
  deriving DecidableEq, Repr

def Color.code : Color → String
  | .red => "31"
  | .green => "32"
  | .yellow => "33"
  | .blue => "34"
  | .magenta => "35"
  | .cyan => "36"
  | .brightRed => "91"

/-- The name of a color. -/
def Color.name : Color → String
  | .red => "Red"
  | .green => "Green"
  | .yellow => "Yellow"
  | .blue => "Blue"
  | .magenta => "Magenta"
  | .cyan => "Cyan"
  | .brightRed => "BrightRed"

structure Style where
  bold : Bool
  dim : Bool
  color : Option Color
  deriving DecidableEq, Repr

namespace Style

def plain : Style := ⟨false, false, none⟩

def ofColor (c : Color) : Style := ⟨false, false, some c⟩

def boldColor (c : Color) : Style := ⟨true, false, some c⟩

def strong : Style := ⟨true, false, none⟩

def faint : Style := ⟨false, true, none⟩

def codes (s : Style) : List String :=
  (if s.bold then ["1"] else []) ++ (if s.dim then ["2"] else []) ++
    (s.color.map Color.code).toList

/-- The escape that opens a style. -/
def opening (s : Style) : List Char :=
  '\x1b' :: '[' :: (";".intercalate s.codes).toList ++ ['m']

/-- The escape that ends all styles. -/
def reset : List Char := ['\x1b', '[', '0', 'm']

/-- A text with the opening escape repeated after each reset in it. -/
def reopen (opening : List Char) : List Char → List Char
  | '\x1b' :: '[' :: '0' :: 'm' :: r => reset ++ opening ++ reopen opening r
  | c :: r => c :: reopen opening r
  | [] => []

/-- The text in the style, on a terminal that takes escapes or not. -/
def paint (escapes : Bool) (style : Style) (text : String) : String :=
  if !escapes || style.codes.isEmpty then text
  else .ofList (style.opening ++ reopen style.opening text.toList ++ reset)

end Style

/-- Blanks after a text, up to a width in characters. -/
def padRight (width : Nat) (text : String) : String :=
  text ++ .ofList (List.replicate (width - text.length) ' ')

end Volley
