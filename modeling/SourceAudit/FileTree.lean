import SourceAudit.FileName
import SourceAudit.Path

/-!
# File trees

A `FileTree` is a directory with all that is below it, one file, or something else. A `FileSystem` is the tree below
the root together with the working directory. Names in paths are texts, so a path leads to nothing below a name that
is none; a `FoundFile` does.

`FileSystem.resolve` : the place that a path leads to.
`FileSystem.contains`, `FileSystem.isFile`, `FileSystem.read` : what is there.
-/

namespace SourceAudit

inductive FileTree where
  /-- A file with its text, or with bytes that are no text. -/
  | file (text : Option String)
  /-- A directory with its entries by name. -/
  | dir (entries : List (FileName × FileTree))
  /-- Neither, such as a socket. -/
  | other
  deriving Inhabited

/-- Why a file cannot be read. -/
inductive FileError where
  | notFound
  | notDirectory
  | isDirectory
  | notText
  | noDevice
  deriving DecidableEq, Repr

def FileError.message : FileError → String
  | notFound => "No such file or directory (os error 2)"
  | notDirectory => "Not a directory (os error 20)"
  | isDirectory => "Is a directory (os error 21)"
  | notText => "stream did not contain valid UTF-8"
  | noDevice => "No such device or address (os error 6)"

namespace FileTree

/-- What is below a directory, along names. -/
def at? (t : FileTree) : List FileName → Option FileTree
  | [] => some t
  | name :: names =>
    match t with
    | dir entries => (entries.lookup name).bind (·.at? names)
    | _ => none

/-- What is below a directory, along names that are texts. -/
def find? (t : FileTree) (names : List String) : Option FileTree := t.at? (names.map .text)

/-- Puts a tree below a directory; directories on the way are made if need be. -/
def insert (new : FileTree) : List String → FileTree → FileTree
  | [], _ => new
  | name :: names, t =>
    let entries := match t with
      | dir es => es
      | _ => []
    let old := (entries.lookup (.text name)).getD (dir [])
    dir ((.text name, insert new names old) :: entries.filter (·.1 ≠ .text name))

def content : FileTree → Except FileError String
  | file (some text) => .ok text
  | file none => .error .notText
  | dir _ => .error .isDirectory
  | other => .error .noDevice

end FileTree

/-- The files below the root, and a working directory. -/
structure FileSystem where
  root : FileTree
  /-- The names on the way from the root to the working directory. -/
  cwd : List String := []

namespace FileSystem

def workingDirectory (fs : FileSystem) : Path := "/" ++ "/".intercalate fs.cwd

/-- Takes one step after another. `here` is the place so far, its last name first. -/
def follow (root : FileTree) (here : List String) : List (List Char) → Except FileError (List String)
  | [] => .ok here
  | s :: ss =>
    match root.find? here.reverse with
    | none => .error .notFound
    | some (.file _) | some .other => .error .notDirectory
    | some (.dir entries) =>
      if Path.isIdle s then follow root here ss
      else if s = ['.', '.'] then follow root here.tail ss
      else
        let name := String.ofList s
        if (entries.lookup (.text name)).isSome then follow root (name :: here) ss else .error .notFound

/-- The names on the way from the root to where a path leads. -/
def resolve (fs : FileSystem) (p : Path) : Except FileError (List String) := do
  if p = "" then .error .notFound
  let start := if p.isAbsolute then [] else fs.cwd.reverse
  return (← follow fs.root start (Path.segments p.toList)).reverse

def get (fs : FileSystem) (p : Path) : Except FileError FileTree := do
  match fs.root.find? (← fs.resolve p) with
  | some t => .ok t
  | none => .error .notFound

def contains (fs : FileSystem) (p : Path) : Bool := (fs.get p).isOk

def isFile (fs : FileSystem) (p : Path) : Bool :=
  match fs.get p with
  | .ok (.file _) => true
  | _ => false

def read (fs : FileSystem) (p : Path) : Except FileError String := do (← fs.get p).content

end FileSystem

/-! ## Files that are found -/

/-- A file by the path where the search for it started, and by the names from there on. -/
structure FoundFile where
  start : Path
  names : List FileName := []

instance : Coe Path FoundFile := ⟨fun p => { start := p }⟩

def FoundFile.path (f : FoundFile) : Path :=
  if f.names.isEmpty then f.start else f.start.join ("/".intercalate (f.names.map FileName.shown))

namespace FileSystem

def getFound (fs : FileSystem) (f : FoundFile) : Except FileError FileTree := do
  match (← fs.get f.start).at? f.names with
  | some t => .ok t
  | none => .error .notFound

def readFound (fs : FileSystem) (f : FoundFile) : Except FileError String := do (← fs.getFound f).content

end FileSystem

end SourceAudit
