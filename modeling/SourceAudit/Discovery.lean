import SourceAudit.Config.Basic
import SourceAudit.FileTree
import SourceAudit.Language

/-!
# Files to scan

`FileTree.files` : the files of a tree, in depth, with the entries of a directory in the order of their names.
`discover` : the files to scan for a path: the file itself, or those below a directory that have a known language and
pass the filter.
-/

namespace SourceAudit

def skippedDirectories : List String := ["node_modules", "target", "vendor", "__pycache__"]

/-- Whether a directory with a name is entered. Hidden ones are not; a name that is no text hides nothing. -/
def entersDirectory : FileName → Bool
  | .text name => name.toList.head? != some '.' && !skippedDirectories.contains name
  | .raw .. => true

namespace FileTree

def isDir : FileTree → Bool
  | dir _ => true
  | _ => false

mutual

def files : FileTree → List (List FileName)
  | file _ => [[]]
  | dir entries =>
    ((entryFiles entries).mergeSort fun a b => a.1.le b.1).flatMap fun e => e.2.map fun names => e.1 :: names
  | other => []

/-- The files below each entry, without directories that are not entered. -/
def entryFiles : List (FileName × FileTree) → List (FileName × List (List FileName))
  | [] => []
  | (name, t) :: rest =>
    if t.isDir && !entersDirectory name then entryFiles rest else (name, files t) :: entryFiles rest

end

end FileTree

def isSupported (file : Path) : Bool := (languageOf? file).isSome

/-- The path, seen from the start of a walk, that is compared with the patterns of a configuration. -/
def relativePath (names : List FileName) : String :=
  String.ofList (("/".intercalate (names.map FileName.shown)).toList.map fun c => if c = '\\' then '/' else c)

/-- The files to scan below a directory. -/
def discoverIn (filter : PathFilter) (path : Path) (t : FileTree) : List FoundFile :=
  (t.files.map (FoundFile.mk path)).filter fun f => isSupported f.path && filter.isIncluded (relativePath f.names)

/-- The files to scan for a path; nothing if the path leads nowhere. -/
def discover (fs : FileSystem) (config : Config) (path : Path) : Option (List FoundFile) :=
  match fs.get path with
  | .error _ => none
  | .ok (.file _) => some (if isSupported path then [⟨path, []⟩] else [])
  | .ok t => some (discoverIn config.pathFilter path t)

end SourceAudit
