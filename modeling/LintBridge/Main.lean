import LintBridge.CommandLine.Program

/-!
The program on a real system.

The part of the file system that the command line is about is read first: the paths that it names,
and the analyser with its interpreter in each directory of the search path. Links keep the place
that they lead to in the end as their target, and those that lead nowhere are left out. What is read
is handed to `CommandLine.program`, whose output is printed.
-/
set_option autoImplicit false

namespace LintBridge.Main

open CommandLine

/-- Nodes of a file system, each under the names that lead to it from the root. -/
abbrev Nodes := List (List String × Node)

/-- A place below the root as text. -/
def placeText (place : List String) : String := "/" ++ "/".intercalate place

def utilities : List String :=
  ["bash", "cat", "dash", "echo", "env", "false", "printf", "pwd", "sleep", "true"]

def isScript : List UInt8 → Bool
  | 35 :: 33 :: _ => true
  | _ => false

def isMachineCode : List UInt8 → Bool
  | 127 :: 69 :: 76 :: 70 :: _ => true
  | _ => false

/-- The node of a file with a name. The content of machine code is left out. -/
def fileNode (name : String) (content : ByteArray) : Node :=
  let start := (content.extract 0 4).toList
  if isMachineCode start then
    if utilities.contains name then .utility name else .file true true start
  else .file true (isScript start) content.toList

def readFile (place : List String) : IO Node := do
  try return fileNode (place.getLastD "") (← IO.FS.readBinFile (placeText place))
  catch _ => return .file false false []

/-- What is found at a place above which there are no links, and where a look-up goes on. -/
def look (place : List String) : IO (Option (Node × List String)) := do
  try
    let real ← IO.FS.realPath (placeText place)
    let realPlace := (Path.ofString real.toString).names
    if realPlace != place then return some (.link real.toString, realPlace)
    if (← real.metadata).type == .dir then return some (.directory true, place)
    return some (← readFile place, place)
  catch _ => return none

/-- The directories above a place that has no links above it, and what is found at the place. -/
def readPlace (nodes : Nodes) (place : List String) : IO Nodes := do
  let above := (List.range place.length).map fun n => (place.take n, Node.directory true)
  match ← look place with
  | some (node, _) => return nodes ++ above ++ [(place, node)]
  | none => return nodes ++ above

def follow (nodes : Nodes) (place : List String) : List String → IO Nodes
  | [] => return nodes
  | ".." :: rest => follow nodes place.dropLast rest
  | name :: rest => do
    match ← look (place ++ [name]) with
    | none => return nodes
    | some (node, next) =>
      follow (← readPlace (nodes ++ [(place ++ [name], node)]) next) next rest

def followPath (nodes : Nodes) (here : List String) (path : Path) : IO Nodes :=
  follow nodes (if path.isAbsolute then [] else here) path.names

def interpretersOf (nodes : Nodes) : List Path :=
  nodes.filterMap fun (_, node) =>
    match node with
    | .file _ _ content => (Command.interpreter? content).map fun (text, _) => Path.ofString text
    | _ => none

def analyserPaths (searchPath name : String) : List Path :=
  Path.ofString name ::
    (Command.directoriesOf searchPath).map fun directory =>
      Path.ofString (Command.entryText directory name)

def pathsOf (environment : Environment) (searchPath : String) (words : List String) : List Path :=
  match Request.read words, Settings.ofEnvironment environment with
  | .ok (.check options), .ok settings =>
    let analyser := (withExecutable settings options.executable).executable
    options.paths ++ options.folders ++ options.cwd.toList ++
      (analyser.map (analyserPaths searchPath)).getD []
  | _, _ => []

def readEnvironment : IO Environment := do
  let names := ["SHELLCHECK_PATH", "SHELLCHECK_ARGUMENTS", "SHELLCHECK_TIMEOUT"]
  let values ← names.mapM fun name => return (← IO.getEnv name).map fun value => (name, value)
  return values.filterMap id

def readFiles (here : List String) (paths : List Path) : IO FileSystem := do
  let start ← readPlace [([], .directory true)] here
  let nodes ← paths.foldlM (fun nodes path => followPath nodes here path) start
  let nodes ← (interpretersOf nodes).foldlM (fun nodes path => followPath nodes here path) nodes
  return ⟨nodes, here⟩

/-- The program for the words of a command line, on the system as it is. -/
def run (words : List String) : IO Finish := do
  let environment ← readEnvironment
  let searchPath := (← IO.getEnv "PATH").getD "/bin:/usr/bin"
  let here := (Path.ofString (← IO.currentDir).toString).names
  let files ← readFiles here (pathsOf environment searchPath words)
  let isTerminal ← (← IO.getStderr).isTty
  let runner := Runner.ofHost ⟨files, searchPath⟩
  return (program ⟨files, environment, runner, isTerminal⟩ words).finish

end LintBridge.Main

def main (words : List String) : IO UInt32 := do
  let finish ← LintBridge.Main.run words
  IO.print finish.output
  IO.eprint finish.errors
  return UInt32.ofNat finish.code
