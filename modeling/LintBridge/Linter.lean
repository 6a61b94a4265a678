import LintBridge.Command
import LintBridge.Dialect
import LintBridge.LinterConfig
import LintBridge.Report.Output
import LintBridge.ShellWords
import LintBridge.SourceSearch

/-!
A linter of documents, as seen from one of its calls.

A call has two halves with a run of the analyser between them. `prepare` looks at the document:
there is nothing to do if linting is off or the document is no script of a known dialect; otherwise
there is a command to run. `conclude` turns what came of the command into the diagnostics of the
document. A missing executable turns linting off for good, once and with one warning; any other
failure that is expected is logged and leaves the call without diagnostics.
-/
set_option autoImplicit false

namespace LintBridge

inductive LogLevel where
  | warning
  | error
  | debug
  deriving DecidableEq, Repr

structure LogEntry where
  level : LogLevel
  text : String
  deriving DecidableEq, Repr

/-- A configuration, and whether the analyser will still be run. -/
structure Linter where
  config : LinterConfig
  isOn : Bool

inductive LintFault where
  | search (fault : SearchFault)
  | run (fault : RunFault)
  | output (fault : OutputFault)

def LintFault.message : LintFault → String
  | .search fault => fault.message
  | .run fault => fault.message
  | .output fault => fault.message

abbrev LintOutcome := Except LintFault (List Diagnostic)

/-- What a call has to do first. -/
inductive Task where
  | nothing
  | failed (fault : LintFault)
  | run (invocation : Invocation) (debug : LogEntry)

structure Conclusion where
  linter : Linter
  outcome : LintOutcome
  log : List LogEntry

namespace Linter

def ofConfig (config : LinterConfig) : Linter := ⟨config, config.isEnabled⟩

def baseArguments : List String := ["--format=json1", "--external-sources"]

/-- The command that checks a script of a dialect. The script is read from the input. -/
def command (config : LinterConfig) (executable dialect : String) (s : SourceSearch) :
    List String :=
  executable :: baseArguments ++ [s!"--shell={dialect}"] ++ s.arguments ++ config.arguments ++ ["-"]

/-- The executable to run, if linting is on. -/
def executable? (l : Linter) : Option String :=
  match l.config.executable with
  | some executable => if l.isOn && executable != "" then some executable else none
  | none => none

def prepare (l : Linter) (fs : FileSystem) (d : Document) (folders : List WorkspaceFolder) : Task :=
  match l.executable?, Dialect.argument? d.text with
  | some executable, some dialect =>
    match SourceSearch.ofDocument fs l.config.cwd d folders with
    | .error fault => .failed (.search fault)
    | .ok s =>
      let command := command l.config executable dialect s
      let words := ShellWords.joinStrings command
      .run
        { command, cwd := some s.cwd, input := some d.text, timeout := l.config.timeout }
        ⟨.debug, s!"ShellCheck: running command={words} cwd={s.cwd}"⟩
  | _, _ => .nothing

/-- How the one warning starts with which linting is turned off. -/
def disabledMessage : String :=
  "ShellCheck: disabling linting as no executable was found at path"

def conclusionWith (l : Linter) (log : List LogEntry) : Conclusion := ⟨l, .ok [], log⟩

def turnOff (l : Linter) (reason : String) : Conclusion :=
  if l.isOn then
    let name := l.config.executable.getD ""
    conclusionWith { l with isOn := false } [⟨.warning, s!"{disabledMessage} '{name}' ({reason})"⟩]
  else conclusionWith l []

/-- The conclusion of a call whose command ran to its end. Output with an integer of too many digits
is not expected. -/
def concludeOutput (l : Linter) (d : Document) (c : Completion) : Conclusion :=
  match Report.diagnosticsOfText c.output with
  | .ok diagnostics => ⟨l, .ok diagnostics, []⟩
  | .error fault =>
    if fault.isLimit then ⟨l, .error (.output fault), []⟩
    else
      conclusionWith l
        [⟨.error,
          s!"ShellCheck: unusable output for {d.uri} (exit {c.code}): {fault.message}\n" ++
            s!"out:\n{c.output}\nerr:\n{c.errors}"⟩]

def conclude (l : Linter) (d : Document) : Except RunFault Completion → Conclusion
  | .ok completion => l.concludeOutput d completion
  | .error (.unavailable _ reason) => l.turnOff reason
  | .error (.timedOut executable limit) =>
    let message := (RunFault.timedOut executable limit).message
    l.conclusionWith [⟨.warning, s!"ShellCheck: {message}; skipping diagnostics for {d.uri}"⟩]
  | .error (.workingDirectory cwd) =>
    let message := (RunFault.workingDirectory cwd).message
    l.conclusionWith [⟨.error, s!"ShellCheck: {message}; skipping diagnostics for {d.uri}"⟩]
  | .error (.invalid message) =>
    l.conclusionWith [⟨.error, s!"ShellCheck: could not run command for {d.uri}: {message}"⟩]
  | .error fault => ⟨l, .error (.run fault), []⟩

end Linter

end LintBridge
