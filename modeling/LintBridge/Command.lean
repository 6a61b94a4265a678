import LintBridge.FileSystem
import LintBridge.Timeout

/-!
Commands that are run to their end with their output captured: what is asked for, what comes back,
and how it can fail.
-/
set_option autoImplicit false

namespace LintBridge

/-- A command to run, with the text that it reads and the limits that it runs under. -/
structure Invocation where
  command : List String
  cwd : Option Path := none
  input : Option String := none
  timeout : Timeout := Timeout.standard

/-- What a command that ran to its end has left. The code is for the record only. -/
structure Completion where
  command : List String
  code : Int
  output : String
  errors : String

inductive RunFault where
  /-- The executable is missing or cannot be started. -/
  | unavailable (executable reason : String)
  /-- The command ran longer than it may. -/
  | timedOut (executable : String) (limit : Binary64)
  /-- The working directory is no directory. -/
  | workingDirectory (cwd : Path)
  /-- The arguments cannot be those of a command. -/
  | invalid (message : String)
  /-- Whether the working directory is a directory cannot be told. -/
  | probe (fault : FileFault) (cwd : Path)
  /-- The system refused something else. -/
  | system (message : String)
  /-- What runs commands broke down. -/
  | broken (message : String)
  /-- The run was cancelled from outside. -/
  | cancelled

def RunFault.message : RunFault → String
  | .unavailable executable reason => s!"Executable '{executable}' is unavailable: {reason}"
  | .timedOut executable limit => s!"Command '{executable}' timed out after {limit.showTenths}s"
  | .workingDirectory cwd => s!"Working directory '{cwd}' does not exist or is not a directory"
  | .invalid message => message
  | .probe fault cwd => fault.messageAt cwd
  | .system message => message
  | .broken message => message
  | .cancelled => ""

end LintBridge
