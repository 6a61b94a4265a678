import LintBridge.Path
import LintBridge.Text.Quoted
import LintBridge.Text.Utf8

/-!
A tree of files as one process sees it.

Every node is kept under the names that lead to it from the root. A path is looked up name by name
from the root or from the directory that the process is in: names are searched for in directories
only, two dots go back to the directory above, and a link is replaced by its target, at most
`maxLinks` times in one look-up. A look-up ends at a node that is no link (`walk_not_link`).
-/
set_option autoImplicit false

namespace LintBridge

inductive Node where
  /-- A directory, and whether the process may enter it. -/
  | directory (enterable : Bool)
  /-- A file with its octets, and whether the process may read and execute it. -/
  | file (readable executable : Bool) (content : List UInt8)
  /-- An executable file of machine code, known by the name of the utility that it is. -/
  | utility (name : String)
  | link (target : String)
  deriving DecidableEq, Repr

inductive FileFault where
  | notFound
  | argumentsTooLong
  | notExecutable
  | denied
  | notDirectory
  | isDirectory
  | nameTooLong
  | tooManyLinks
  deriving DecidableEq, Repr

namespace FileFault

def code : FileFault → Nat
  | notFound => 2
  | argumentsTooLong => 7
  | notExecutable => 8
  | denied => 13
  | notDirectory => 20
  | isDirectory => 21
  | nameTooLong => 36
  | tooManyLinks => 40

def reason : FileFault → String
  | notFound => "No such file or directory"
  | argumentsTooLong => "Argument list too long"
  | notExecutable => "Exec format error"
  | denied => "Permission denied"
  | notDirectory => "Not a directory"
  | isDirectory => "Is a directory"
  | nameTooLong => "File name too long"
  | tooManyLinks => "Too many levels of symbolic links"

def messageAt (fault : FileFault) (path : Path) : String :=
  s!"[Errno {fault.code}] {fault.reason}: {Text.quotedString path.toString}"

end FileFault

/-- A tree of files, and the directory that the process is in. -/
structure FileSystem where
  nodes : List (List String × Node)
  /-- The names that lead from the root to the directory of the process. -/
  here : List String

namespace FileSystem

def maxName : Nat := 255

def maxPath : Nat := 4095

/-- The number of links that one look-up follows. -/
def maxLinks : Nat := 40

def cwd (fs : FileSystem) : Path := Path.ofNames .root fs.here

/-- The node under the names that lead to it from the root, which is a directory. -/
def node? (fs : FileSystem) (names : List String) : Option Node :=
  if names.isEmpty then some (.directory true) else fs.nodes.lookup names

/-- Whether a path given as text starts at the root. -/
def startsAtRoot (text : String) : Bool := text.toList.head? == some '/'

/-- The names in a path given as text; a dot stands for the directory itself, and so does a slash at
the end. -/
def textNames (text : String) : List String :=
  let names := Path.pieces text.toList
  names.dropLast.filter (· != "") ++
    (if names.getLast? = some "" then ["."] else names.getLast?.toList)

/-- The names that lead to the node which a look-up ends at. It stands at the node under `place`,
has the given names before it and may follow the given number of links. -/
def walk (fs : FileSystem) (links : Nat) (place : List String) : List String →
    Except FileFault (List String)
  | [] => .ok place
  | name :: rest =>
    match fs.node? place with
    | some (.directory true) =>
      if name = "." then walk fs links place rest
      else if name = ".." then walk fs links place.dropLast rest
      else if maxName < name.utf8ByteSize then .error .nameTooLong
      else
        match fs.node? (place ++ [name]) with
        | none => .error .notFound
        | some (.link target) =>
          match links with
          | 0 => .error .tooManyLinks
          | fewer + 1 =>
            walk fs fewer (if startsAtRoot target then [] else place) (textNames target ++ rest)
        | some _ => walk fs links (place ++ [name]) rest
    | some (.directory false) => .error .denied
    | some _ => .error .notDirectory
    | none => .error .notFound
termination_by names => (links, names.length)

/-- The names that lead to what a path given as text stands for. -/
def locateText (fs : FileSystem) (text : String) : Except FileFault (List String) :=
  if text = "" then .error .notFound
  else if maxPath < text.utf8ByteSize then .error .nameTooLong
  else fs.walk maxLinks (if startsAtRoot text then [] else fs.here) (textNames text)

def statText (fs : FileSystem) (text : String) : Except FileFault Node := do
  let names ← fs.locateText text
  match fs.node? names with
  | some node => .ok node
  | none => .error .notFound

def stat (fs : FileSystem) (p : Path) : Except FileFault Node := fs.statText p.toString

/-- Whether a fault of a look-up only says that there is nothing. -/
def isAbsence : FileFault → Bool
  | .notFound => true
  | .notDirectory => true
  | .tooManyLinks => true
  | _ => false

/-- Whether a path is that of a directory, or a fault that leaves the question open. -/
def isDirectory (fs : FileSystem) (p : Path) : Except FileFault Bool :=
  if p.hasNul then .ok false
  else
    match fs.stat p with
    | .ok (.directory _) => .ok true
    | .ok _ => .ok false
    | .error fault => if isAbsence fault then .ok false else .error fault

def read (fs : FileSystem) (p : Path) : Except FileFault (List UInt8) :=
  match fs.stat p with
  | .ok (.file readable _ content) => if readable then .ok content else .error .denied
  | .ok (.utility _) => .ok []
  | .ok (.directory _) => .error .isDirectory
  | .ok (.link _) => .error .tooManyLinks
  | .error fault => .error fault

end FileSystem

end LintBridge
