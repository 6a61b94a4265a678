import LintBridge.Document
import LintBridge.FileSystem
import LintBridge.FileUri.Reader

/-!
The directory that the analyser runs in, and the directories in which it looks for sourced scripts.

It runs in the base directory if one is configured, else in the directory of the document if that
exists, else in that of the process. It looks there first, and then in the workspace folders that
are file URIs, in order and each path once.
-/
set_option autoImplicit false

namespace LintBridge

structure SourceSearch where
  cwd : Path
  places : List Path

inductive SearchFault where
  | uri (fault : FileUri.Fault)
  /-- Whether the path is that of a directory cannot be told. -/
  | probe (fault : FileFault) (path : Path)

def SearchFault.message : SearchFault → String
  | .uri fault => fault.message
  | .probe fault path => fault.messageAt path

namespace SourceSearch

def arguments (s : SourceSearch) : List String :=
  s.places.map fun place => s!"--source-path={place}"

/-- The directory that a document is in, if it exists. -/
def directoryOf (fs : FileSystem) (d : Document) : Except SearchFault (Option Path) :=
  match FileUri.toPath? d.uri with
  | .error fault => .error (.uri fault)
  | .ok none => .ok none
  | .ok (some path) =>
    match fs.isDirectory path.parent with
    | .error fault => .error (.probe fault path.parent)
    | .ok exists' => .ok (if exists' then some path.parent else none)

def startOf (fs : FileSystem) (base : Option Path) (d : Document) : Except SearchFault Path :=
  match base with
  | some path => .ok path
  | none => (directoryOf fs d).map fun directory => directory.getD fs.cwd

/-- The local paths of workspace folders; folders that have none are left out. -/
def folderPaths : List WorkspaceFolder → Except SearchFault (List Path)
  | [] => .ok []
  | folder :: more =>
    match FileUri.toPath? folder.uri with
    | .error fault => .error (.uri fault)
    | .ok path => (folderPaths more).map fun paths => path.toList ++ paths

/-- The first occurrence of every path, in order. -/
def distinct : List Path → List Path
  | [] => []
  | path :: more => path :: (distinct more).filter (· ≠ path)

def ofDocument (fs : FileSystem) (base : Option Path) (d : Document)
    (folders : List WorkspaceFolder) : Except SearchFault SourceSearch := do
  let cwd ← startOf fs base d
  let paths ← folderPaths folders
  .ok ⟨cwd, distinct (cwd :: paths)⟩

end SourceSearch

end LintBridge
