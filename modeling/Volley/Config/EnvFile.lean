import Volley.Config.Environment
import Volley.FileSystem
import Volley.Text.Alphanumeric

/-!
# Environment files

A file of lines `KEY=value`, with comments, quotes, escapes and references to other variables. A
line sets a variable that is not set yet, so a line can refer to the lines before it through the
environment. The first line that cannot be read ends the file; the lines before it keep their
effect.

Limitations: a path that leads to something else than a file, such as a directory, counts as not
found here. The program goes on to look for a file of that name in the directories above the working
directory, of which the file system here knows nothing.
-/

namespace Volley.EnvFile

/-- A text that cannot be read, and the place in it. -/
structure LineFault where
  text : String
  index : Nat
  deriving DecidableEq, Repr

def LineFault.message (e : LineFault) : String :=
  "Error parsing line: '" ++ e.text ++ "', error at line index: " ++ toString e.index

def LineFault.toFault (e : LineFault) : Fault := .config ("Environment file error: " ++ e.message)

/-! ## Values -/

inductive Quote where
  | none
  | single
  | double
  deriving DecidableEq, Repr

/-- Whether a reference is being read, and how it ends. -/
inductive Reference where
  | none
  /-- Ends before the first character that is no letter or number. -/
  | bare
  /-- Ends with a closing brace. -/
  | braced
  deriving DecidableEq, Repr

/-- A value that is being read. -/
structure Scan where
  /-- The characters so far, the last first. -/
  output : List Char
  quote : Quote
  escaped : Bool
  /-- A blank ended the value. -/
  ended : Bool
  reference : Reference
  /-- The name in the reference so far, the last character first. -/
  name : List Char
  deriving DecidableEq, Repr

namespace Scan

def start : Scan := ⟨[], .none, false, false, .none, []⟩

def emit (s : Scan) (c : Char) : Scan := { s with output := c :: s.output }

/-- Puts the value that a reference stands for in its place. -/
def resolve (env : Environment) (s : Scan) : Scan :=
  let value := (env.get? (.ofList s.name.reverse)).getD ""
  { s with output := value.toList.reverse ++ s.output, reference := .none, name := [] }

/-- An escaped character. -/
def unescape (s : Scan) (c : Char) : Option Scan :=
  let s := { s with escaped := false }
  if c == 'n' then some (s.emit '\n')
  else if c == '\\' || c == '\x27' || c == '"' || c == '$' || c == ' ' then some (s.emit c)
  else none

/-- A character of a reference. -/
def refer (env : Environment) (s : Scan) (c : Char) : Scan :=
  if Text.isAlphanumeric c then { s with name := c :: s.name }
  else match s.reference with
    | .braced => if c == '\x7d' then s.resolve env else { s with name := c :: s.name }
    | _ =>
      if c == '\x7b' && s.name.isEmpty then { s with reference := .braced }
      else
        let s := s.resolve env
        if c == '$' then { s with reference := .bare } else s.emit c

/-- A character outside of references, escapes and single quotes. -/
def plain (s : Scan) (c : Char) : Scan :=
  if c == '$' then { s with reference := .bare }
  else if c == '\\' then { s with escaped := true }
  else if s.quote = .double then
    if c == '"' then { s with quote := .none } else s.emit c
  else if c == '\x27' then { s with quote := .single }
  else if c == '"' then { s with quote := .double }
  else if c == ' ' || c == '\t' then { s with ended := true }
  else s.emit c

/-- One character before the end of the value. -/
def step (env : Environment) (s : Scan) (c : Char) : Option Scan :=
  if s.escaped then s.unescape c
  else if s.quote = .single then
    some (if c == '\x27' then { s with quote := .none } else s.emit c)
  else if s.reference ≠ .none then some (s.refer env c)
  else some (s.plain c)

/-- Reads the characters from an index on; a refusal tells the index. -/
def run (env : Environment) (s : Scan) (index : Nat) : List Char → Except Nat Scan
  | [] => .ok s
  | c :: r =>
    if s.ended then
      if c == ' ' || c == '\t' then s.run env (index + 1) r
      else if c == '#' then .ok s
      else .error index
    else match s.step env c with
      | some s => s.run env (index + 1) r
      | none => .error index

/-- Whether a quote or a brace is still open. -/
def isOpen (s : Scan) : Bool := s.reference == .braced || s.quote != .none

end Scan

/-- Reads a value. -/
def parseValue (env : Environment) (text : List Char) : Except LineFault String :=
  match Scan.start.run env 0 text with
  | .error index => .error ⟨.ofList text, index⟩
  | .ok s =>
    if s.isOpen then .error ⟨.ofList text, Text.Utf8.size text - 1⟩
    else .ok (.ofList (s.resolve env).output.reverse)

/-! ## Lines -/

def isKeyStart (c : Char) : Bool := c.isAlpha || c == '_'

def isKeyPart (c : Char) : Bool := c.isAlphanum || c == '_' || c == '.'

/-- A rest of a line, and how many bytes of the line were read. -/
structure Rest where
  chars : List Char
  read : Nat
  deriving DecidableEq, Repr

namespace Rest

def skipBlanks (r : Rest) : Rest :=
  ⟨r.chars.dropWhile Text.isBlank, r.read + Text.Utf8.size (r.chars.takeWhile Text.isBlank)⟩

/-- A key. -/
def key (r : Rest) : Except Nat (String × Rest) :=
  match r.chars with
  | c :: _ =>
    if isKeyStart c then
      let name := r.chars.takeWhile isKeyPart
      .ok (.ofList name, ⟨r.chars.dropWhile isKeyPart, r.read + name.length⟩)
    else .error r.read
  | [] => .error r.read

/-- The sign between key and value. -/
def equals (r : Rest) : Except Nat Rest :=
  match r.chars with
  | '=' :: s => .ok ⟨s, r.read + 1⟩
  | _ => .error r.read

/-- A key up to the value, where the word `export` may stand before the key. -/
def assignment (r : Rest) : Except Nat (String × Rest) := do
  let (name, r) ← r.key
  let r := r.skipBlanks
  match r.equals with
  | .ok r => return (name, r.skipBlanks)
  | .error index =>
    if name != "export" then throw index
    let (name, r) ← r.key
    let r ← r.skipBlanks.equals
    return (name, r.skipBlanks)

/-- Whether nothing but a comment follows. -/
def isOver (r : Rest) : Bool := r.chars.isEmpty || r.chars.head? == some '#'

end Rest

/-- Reads a line: a variable and its value, or nothing. -/
def parseLine (env : Environment) (line : List Char) :
    Except LineFault (Option (String × String)) :=
  let start := (Rest.mk (Text.trimEnd line) 0).skipBlanks
  if start.isOver then .ok none
  else match start.assignment with
    | .error index => .error ⟨.ofList line, index⟩
    | .ok (name, r) =>
      if r.isOver then .ok (some (name, ""))
      else (parseValue env r.chars).map fun value => some (name, value)

/-! ## Files -/

/-- The bytes of a line without its terminator: a line feed, and a carriage return right before
it. -/
def stripLine (line : List UInt8) : List UInt8 :=
  match line.reverse with
  | 10 :: 13 :: r => r.reverse
  | 10 :: r => r.reverse
  | _ => line

/-- Applies a line to the environment. -/
def applyLine (env : Environment) (line : List UInt8) : Except String Environment :=
  match Text.Utf8.decode? (stripLine line) with
  | none => .error FileFault.notText.message
  | some text =>
    match parseLine env text with
    | .error e => .error e.message
    | .ok none => .ok env
    | .ok (some (name, value)) => .ok (env.setDefault name value)

/-- Applies lines up to the first that cannot be read. -/
def applyLines (env : Environment) : List (List UInt8) → Except String Unit × Environment
  | [] => (.ok (), env)
  | line :: r =>
    match applyLine env line with
    | .ok env => applyLines env r
    | .error e => (.error e, env)

/-- Applies the bytes of a file. -/
def apply (env : Environment) (bytes : List UInt8) : Except String Unit × Environment :=
  applyLines env (Text.splitAfter (· == 10) bytes)

def defaultPath : String := ".env"

/-- Applies what a path leads to. -/
def applyAt (fs : FileSystem) (env : Environment) (path : String) :
    Except String Unit × Environment :=
  if fs.isFile path then
    match fs.read path with
    | .ok bytes => apply env bytes
    | .error e => (.error e.message, env)
  else (.error "path not found", env)

/-- Loads the file at a path, or the default one, which may be missing; the path of the file.
mirrors config/env:18-40 (`EnvManager::load_env_file`) -/
def load (fs : FileSystem) (env : Environment) (path : Option String) :
    Except Fault (Option String) × Environment :=
  let target := path.getD defaultPath
  match fs.lookup target with
  | .error _ =>
    if path.isSome then (.error (.config ("Env file not found: " ++ target)), env)
    else (.ok none, env)
  | .ok _ =>
    match applyAt fs env target with
    | (.ok _, env) => (.ok (some target), env)
    | (.error e, env) => (.error (.config ("Failed to load " ++ target ++ ": " ++ e)), env)

/-- What is told about a load. -/
def report : Option String → String
  | some path => "Loaded configuration from " ++ path
  | none => "No .env file found, using defaults and CLI arguments"

end Volley.EnvFile
