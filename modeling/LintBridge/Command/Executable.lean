import LintBridge.Command

/-!
From the first word of a command to an executable.

An absolute path is taken as it is. A word with a directory in it must be an executable as seen from
the directory of the process, and is kept as it is written. Any other word is looked for in the
directories of the search path, in order. The directory to run in must exist.
-/
set_option autoImplicit false

namespace LintBridge.Command

/-- A file system, and the directories in which executables are looked for, between colons. -/
structure Host where
  files : FileSystem
  searchPath : String

/-- Whether a path given as text is that of a file that may be executed. -/
def isExecutable (fs : FileSystem) (text : String) : Bool :=
  !text.toList.contains '\x00' &&
    match fs.statText text with
    | .ok (.file _ executable _) => executable
    | .ok (.utility _) => true
    | _ => false

def entryText (directory name : String) : String :=
  if directory = "" || directory.toList.getLast? = some '/' then directory ++ name
  else directory ++ "/" ++ name

/-- The directories of a search path. An empty one has none. -/
def directoriesOf (searchPath : String) : List String :=
  if searchPath = "" then [] else (searchPath.toList.splitOn ':').map String.ofList

def hasDirectory (word : String) : Bool := word.toList.contains '/'

/-- The executable that a word of a command stands for. -/
def search? (host : Host) (word : String) : Option String :=
  if hasDirectory word then if isExecutable host.files word then some word else none
  else
    ((directoriesOf host.searchPath).map fun directory => entryText directory word).find?
      (isExecutable host.files)

def locate (host : Host) (word : String) : Except RunFault String :=
  if (Path.ofString word).isAbsolute then .ok (Path.ofString word).toString
  else
    match search? host word with
    | some executable => .ok executable
    | none => .error (.unavailable word "not found on PATH")

def locateCommand (host : Host) : List String → Except RunFault (String × List String)
  | [] => .error (.invalid "subprocess command requires at least one argument")
  | word :: arguments => (locate host word).map fun executable => (executable, arguments)

def checkDirectory (host : Host) : Option Path → Except RunFault (Option Path)
  | none => .ok none
  | some cwd =>
    match host.files.isDirectory cwd with
    | .error fault => .error (.probe fault cwd)
    | .ok true => .ok (some cwd)
    | .ok false => .error (.workingDirectory cwd)

end LintBridge.Command
