import Volley.Text.Split
import Volley.Text.Utf8

/-!
# Files

A tree of directories and files. A path is followed step by step from the working
directory, or from the root if it begins with a slash, so what is wrong with it is the first step
that fails. The root and what lies above the working directory have names of their own, `/` and
`..`, in the places below them.
-/

namespace Volley

/-- Why the system refuses a path. -/
inductive FileFault where
  | notFound
  | notDirectory
  | isDirectory
  | invalidArgument
  | nameTooLong
  | nulInName
  | notText
  deriving DecidableEq, Repr

def FileFault.message : FileFault → String
  | .notFound => "No such file or directory (os error 2)"
  | .notDirectory => "Not a directory (os error 20)"
  | .isDirectory => "Is a directory (os error 21)"
  | .invalidArgument => "Invalid argument (os error 22)"
  | .nameTooLong => "File name too long (os error 36)"
  | .nulInName => "file name contained an unexpected NUL byte"
  | .notText => "stream did not contain valid UTF-8"

/-- What stands at a place in the tree. -/
inductive Node where
  | file (bytes : List UInt8)
  | directory
  deriving DecidableEq, Repr, Inhabited

/-- Nodes by the names on the way to them. The directories on the way are there too. -/
structure FileSystem where
  nodes : List (List String × Node)
  deriving DecidableEq, Repr, Inhabited

namespace FileSystem

def empty : FileSystem := ⟨[]⟩

/-- The parts of a path between its slashes. -/
def parts (path : String) : List String :=
  (Text.fields '/' path.toList).map .ofList

/-- A part that stays where it is. -/
def isStay (part : String) : Bool := part == "" || part == "."

def root : String := "/"

/-- Where a path begins. -/
def start (path : String) : List String := if path.startsWith root then [root] else []

/-- The names on the way of a plain path. -/
def place (path : String) : List String := start path ++ (parts path).filter (!isStay ·)

def isPrefix : List String → List String → Bool
  | [], _ => true
  | _ :: _, [] => false
  | a :: r, b :: s => a == b && isPrefix r s

/-- What stands at a place. -/
def nodeAt? (fs : FileSystem) (here : List String) : Option Node :=
  match fs.nodes.find? (·.1 == here) with
  | some (_, n) => some n
  | none =>
    if here.isEmpty || here == [root] || fs.nodes.any (fun (p, _) => isPrefix here p) then
      some .directory
    else none

def isDirectoryAt (fs : FileSystem) (here : List String) : Bool :=
  match fs.nodeAt? here with
  | some .directory => true
  | _ => false

/-- The place of a name in a directory. -/
def enter (fs : FileSystem) (here : List String) (name : String) : Except FileFault (List String) :=
  if (fs.nodeAt? (here ++ [name])).isSome then .ok (here ++ [name]) else .error .notFound

/-- The directory above; the root is above itself. -/
def above (fs : FileSystem) (here : List String) : Except FileFault (List String) :=
  match here.getLast? with
  | none | some ".." => fs.enter here ".."
  | some _ => if here == [root] then .ok here else .ok here.dropLast

/-- One step from a directory. -/
def step (fs : FileSystem) (here : List String) (part : String) : Except FileFault (List String) :=
  if !fs.isDirectoryAt here then .error .notDirectory
  else if isStay part then .ok here
  else if part == ".." then fs.above here
  else if 255 < part.utf8ByteSize then .error .nameTooLong
  else fs.enter here part

/-- A path that the system looks at at all. -/
def check (path : String) : Except FileFault (List String) :=
  if path.isEmpty then .error .notFound
  else if path.toList.contains '\x00' then .error .nulInName
  else .ok (parts path)

/-- The place that a path leads to. -/
def resolve (fs : FileSystem) (path : String) : Except FileFault (List String) := do
  (← check path).foldlM (fs.step ·) (start path)

/-- The path of the directory that a path lies in. -/
def parent (path : String) : String :=
  match Text.cutLast? '/' path.toList with
  | some (front, _) => .ofList (front ++ ['/'])
  | none => "."

/-- What a path leads to. -/
def lookup (fs : FileSystem) (path : String) : Except FileFault Node := do
  match fs.nodeAt? (← fs.resolve path) with
  | some n => return n
  | none => throw .notFound

/-- Puts a node at a place. -/
def put (fs : FileSystem) (here : List String) (n : Node) : FileSystem :=
  ⟨(here, n) :: fs.nodes.filter (·.1 != here)⟩

/-- A tree of files at plain paths. -/
def ofList (files : List (String × Node)) : FileSystem :=
  files.foldl (fun fs (path, n) => fs.put (place path) n) empty

/-- The bytes of a file. -/
def read (fs : FileSystem) (path : String) : Except FileFault (List UInt8) := do
  match ← fs.lookup path with
  | .file bytes => return bytes
  | .directory => throw .isDirectory

/-- The text of a file. -/
def readText (fs : FileSystem) (path : String) : Except FileFault (List Char) := do
  match Text.Utf8.decode? (← fs.read path) with
  | some s => return s
  | none => throw .notText

/-- Whether a path leads to a file. -/
def isFile (fs : FileSystem) (path : String) : Bool :=
  match fs.lookup path with
  | .ok (.file _) => true
  | _ => false

/-- Makes an empty file, or empties the one that is there; its place and the tree after it. -/
def create (fs : FileSystem) (path : String) : Except FileFault (List String × FileSystem) := do
  let steps ← check path
  let directory ← steps.dropLast.foldlM (fs.step ·) (start path)
  let name := steps.getLastD ""
  if !fs.isDirectoryAt directory then throw .notDirectory
  if isStay name || name == ".." then throw .isDirectory
  if 255 < name.utf8ByteSize then throw .nameTooLong
  let here := directory ++ [name]
  if fs.isDirectoryAt here then throw .isDirectory
  return (here, fs.put here (.file []))

/-- Puts bytes at the end of a file. -/
def append (fs : FileSystem) (here : List String) (more : List UInt8) : FileSystem :=
  match fs.nodeAt? here with
  | some (.file bytes) => fs.put here (.file (bytes ++ more))
  | _ => fs

end FileSystem

end Volley
