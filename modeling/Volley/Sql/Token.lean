import Volley.Text.Blank

/-!
# Tokens of statements

Words, numbers, quoted texts and single characters; blanks and comments separate them.
-/

namespace Volley.Sql

inductive Token where
  /-- A name or keyword in lower case. -/
  | word (name : String)
  | number (digits : String)
  | text (value : String)
  | mark (c : Char)
  /-- A quoted text without an end. -/
  | broken
  deriving DecidableEq, Repr

namespace Token

def isWordChar (c : Char) : Bool := c.isAlphanum || c == '_' || 127 < c.toNat

/-- A quoted text after its opening quote, and what follows it; a quote inside is written twice. -/
def quoted (quote : Char) : List Char → Option (List Char × List Char)
  | [] => none
  | c :: r =>
    if c == quote then
      match r with
      | d :: s =>
        if d == quote then (quoted quote s).map fun (t, u) => (quote :: t, u) else some ([], r)
      | [] => some ([], [])
    else (quoted quote r).map fun (t, u) => (c :: t, u)

/-- The tokens of a text, in at most `limit` steps. -/
def scan : Nat → List Char → List Token
  | 0, _ => []
  | _ + 1, [] => []
  | limit + 1, c :: r =>
    if Text.isBlank c then scan limit r
    else if c == '-' && r.head? == some '-' then scan limit (r.dropWhile (· != '\n'))
    else if c.isDigit then
      let ds := c :: r.takeWhile fun d => d.isDigit || d == '.'
      number (.ofList ds) :: scan limit (r.dropWhile fun d => d.isDigit || d == '.')
    else if isWordChar c then
      let w := c :: r.takeWhile isWordChar
      word (.ofList (w.map Char.toLower)) :: scan limit (r.dropWhile isWordChar)
    else if c == '\x27' || c == '"' then
      match quoted c r with
      | some (t, rest) =>
        (if c == '"' then word (.ofList (t.map Char.toLower)) else text (.ofList t)) ::
          scan limit rest
      | none => [broken]
    else mark c :: scan limit r

end Token

/-- The tokens of a text. -/
def tokens (s : String) : List Token := Token.scan (s.length + 1) s.toList

end Volley.Sql
