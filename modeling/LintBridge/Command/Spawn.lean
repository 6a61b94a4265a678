import LintBridge.Command.Executable

/-!
Starting a child.

The system refuses arguments that hold a NUL character, then a working directory that the child
cannot enter, then arguments that are too long, then an executable that is none. The executable is
looked up from the working directory of the child, and in all entries of the search path if there is
no directory in its name. A file that starts with a number sign and an exclamation mark names its
interpreter, which is started with the file as an argument.
-/
set_option autoImplicit false

namespace LintBridge.Command

inductive SpawnFault where
  | nul
  | arguments (fault : FileFault)
  | directory (fault : FileFault)
  | program (fault : FileFault)
  deriving DecidableEq, Repr

/-- A child: the utility that it is, the name that it is called by, its arguments, and the files as
it sees them. -/
structure Child where
  utility : String
  called : String
  arguments : List String
  files : FileSystem

def maxArgument : Nat := 131071

/-- The number of octets that a command may take up, a closing octet and the eight of a reference
for each argument included. -/
def maxCommand : Nat := 2097152

def isTooLong (command : List String) : Bool :=
  command.any (fun word => maxArgument < word.utf8ByteSize) ||
    maxCommand < (command.map fun word => word.utf8ByteSize + 9).foldl (· + ·) 0

/-- The number of octets in which an interpreter is looked for. -/
def interpreterLine : Nat := 256

def isLineBlank (c : Char) : Bool := c == ' ' || c == '\t'

/-- The interpreter of a file and an argument for it, if its first line names one. -/
def interpreter? (content : List UInt8) : Option (String × Option String) :=
  let isLineStop (c : Char) : Bool := c == '\n' || c == '\x00'
  let line := (Text.Utf8.decodeLenient (content.take interpreterLine)).takeWhile (!isLineStop ·)
  match line with
  | '#' :: '!' :: rest =>
    let rest := (rest.dropWhile isLineBlank).reverse.dropWhile isLineBlank |>.reverse
    let path := rest.takeWhile (!isLineBlank ·)
    let argument := (rest.dropWhile (!isLineBlank ·)).dropWhile isLineBlank
    if path.isEmpty then none
    else
      some (String.ofList path, if argument.isEmpty then none else some (String.ofList argument))
  | _ => none

/-- The number of files that may be tried for one start, interpreters of interpreters included. -/
def maxInterpreters : Nat := 6

/-- The utility that the executable at a path comes down to, with the name that it is called by and
the arguments for it. -/
def load (fs : FileSystem) (path called : String) (arguments : List String) :
    Nat → Except FileFault (String × String × List String)
  | 0 => .error .tooManyLinks
  | tries + 1 =>
    match fs.statText path with
    | .error fault => .error fault
    | .ok (.utility name) => .ok (name, called, arguments)
    | .ok (.file _ true content) =>
      match interpreter? content with
      | none => .error .notExecutable
      | some (interpreter, argument) =>
        load fs interpreter interpreter (argument.toList ++ path :: arguments) tries
    | .ok _ => .error .denied

/-- The paths that are tried for an executable, in order. One with no directory in it is looked for
in all entries of the search path again, the empty ones included. -/
def candidates (searchPath executable : String) : List String :=
  if hasDirectory executable then [executable]
  else (searchPath.toList.splitOn ':').map fun entry => entryText (String.ofList entry) executable

/-- Whether a fault at one path is passed over for a fault at a later one. -/
def isPassedOver : FileFault → Bool
  | .notFound => true
  | .notDirectory => true
  | _ => false

/-- What the first of some paths that can be loaded comes down to. -/
def loadFirst (fs : FileSystem) (called : String) (arguments : List String) :
    List String → Except FileFault (String × String × List String)
  | [] => .error .notFound
  | [path] => load fs path called arguments maxInterpreters
  | path :: more =>
    match load fs path called arguments maxInterpreters with
    | .ok loaded => .ok loaded
    | .error fault =>
      match loadFirst fs called arguments more with
      | .ok loaded => .ok loaded
      | .error later => .error (if isPassedOver fault then later else fault)

def enter (fs : FileSystem) : Option Path → Except FileFault FileSystem
  | none => .ok fs
  | some cwd =>
    match fs.locateText cwd.toString with
    | .error fault => .error fault
    | .ok names =>
      match fs.node? names with
      | some (.directory true) => .ok { fs with here := names }
      | some (.directory false) => .error .denied
      | _ => .error .notDirectory

/-- The child that an executable with arguments becomes in a directory. -/
def spawn (host : Host) (executable : String) (arguments : List String) (cwd : Option Path) :
    Except SpawnFault Child :=
  if (executable :: arguments).any fun word => word.toList.contains '\x00' then .error .nul
  else
    match enter host.files cwd with
    | .error fault => .error (.directory fault)
    | .ok inside =>
      if isTooLong (executable :: arguments) then .error (.arguments .argumentsTooLong)
      else
        match loadFirst inside executable arguments (candidates host.searchPath executable) with
        | .error fault => .error (.program fault)
        | .ok (utility, called, arguments) => .ok ⟨utility, called, arguments, inside⟩

/-- A child that cannot be started makes the executable unavailable, under the name that the caller
gave it. -/
def SpawnFault.toRunFault (word : String) : SpawnFault → RunFault
  | .nul => .invalid "embedded null byte"
  | .arguments fault => .unavailable word fault.reason
  | .directory fault => .unavailable word fault.reason
  | .program fault => .unavailable word fault.reason

end LintBridge.Command
