import Volley.Text.Split

/-!
# Names of extensions

Which texts are identifiers, and the file of a module. A module's name gets the ending of scripts if
it has no extension of its own.
-/

namespace Volley.Extension

def isIdentifierStart (c : Char) : Bool := c.isAlpha || c == '_' || c == '$'

def isIdentifierPart (c : Char) : Bool := isIdentifierStart c || c.isDigit

/-- An ASCII letter, underscore or dollar sign, then any number of these and of digits.
mirrors extension:98-100 (`is_identifier`) -/
def isIdentifier (name : String) : Bool :=
  match name.toList with
  | c :: r => isIdentifierStart c && r.all isIdentifierPart
  | [] => false

/-! ## Files -/

/-- A path and a name under it; an absolute name stands alone. -/
def joinPath (path name : List Char) : List Char :=
  if name.head? = some '/' || path.isEmpty then name
  else if path.getLast? = some '/' then path ++ name
  else path ++ '/' :: name

/-- Drops slashes, and single dots after a slash, from the front of a reversed path. -/
def dropStays : List Char → List Char
  | '/' :: r => dropStays r
  | '.' :: '/' :: r => dropStays ('/' :: r)
  | s => s
termination_by s => s.length

/-- The path up to the end of its last name. -/
def upToName (path : List Char) : List Char := (dropStays path.reverse).reverse

/-- What follows the last slash. -/
def lastPart (path : List Char) : List Char :=
  match Text.cutLast? '/' path with
  | some (_, name) => name
  | none => path

/-- The last name of a path; dots that stand for directories are none. -/
def fileName? (path : List Char) : Option (List Char) :=
  let name := lastPart (upToName path)
  if name.isEmpty || name == ['.'] || name == ['.', '.'] then none else some name

/-- Whether a name has something before its last dot. -/
def hasExtension (name : List Char) : Bool :=
  match Text.cutLast? '.' name with
  | some (stem, _) => !stem.isEmpty
  | none => false

/-- The file of a module under a path.
mirrors extension:103-110 (`resolve_module_file`) -/
def moduleFile (path name : String) : String :=
  let file := joinPath path.toList name.toList
  match fileName? file with
  | none => .ofList file
  | some n => if hasExtension n then .ofList file else .ofList (upToName file ++ ".js".toList)

end Volley.Extension
