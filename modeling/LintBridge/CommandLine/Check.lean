import LintBridge.CommandLine.CheckOptions
import LintBridge.Console.Log
import LintBridge.Document.Loading
import LintBridge.Linter.Rounds
import LintBridge.Settings

/-!
Checking the scripts in files.

The settings of the environment are read, the files loaded and linted together, and the diagnostics
printed with a report for each file that could be read. The code that the command ends with is two
if something could not be done at all, one if a diagnostic blocks, and zero otherwise. If linting
was turned off on the way nothing is printed.
-/
set_option autoImplicit false

namespace LintBridge.CommandLine

/-- What a command depends on. -/
structure Surroundings where
  files : FileSystem
  environment : Environment
  runner : Runner
  /-- Whether error output is a terminal. -/
  isTerminal : Bool

inductive CheckFault where
  | resolve (fault : ResolveFault)
  | lint (fault : LintFault)
  | write (fault : Json.WriteError)

def CheckFault.message : CheckFault → String
  | .resolve fault => fault.message
  | .lint fault => fault.message
  | .write fault => fault.message

structure Finish where
  code : Nat
  output : String
  errors : String

/-- How a command fared, and the analyser runs that it has started. -/
structure CheckRun where
  outcome : Except CheckFault Finish
  runs : List Invocation

def exitClean : Nat := 0
def exitDiagnostics : Nat := 1
def exitFailure : Nat := 2

/-- What was written to error output, and the consoles that were used for it. -/
structure Transcript where
  consoles : ConsoleCache := []
  text : String := ""

namespace Transcript

def status (t : Transcript) (p : Preferences) (isTerminal : Bool) (status : Status)
    (message : String) : Transcript :=
  let (written, consoles) := t.consoles.status p isTerminal status message
  ⟨consoles, t.text ++ written⟩

def log (t : Transcript) (p : Preferences) (isTerminal : Bool) (entry : LogEntry) : Transcript :=
  let (written, consoles) := t.consoles.log p isTerminal entry
  ⟨consoles, t.text ++ written⟩

end Transcript

structure Loaded where
  documents : List (Path × Document)
  unreadable : List (Path × LoadFault)

/-- The documents at some paths. A path that cannot be resolved stops the loading. -/
def loadAll (fs : FileSystem) : List Path → Except ResolveFault Loaded
  | [] => .ok ⟨[], []⟩
  | path :: more =>
    match Document.load fs path with
    | .error (.resolve fault) => .error fault
    | .error fault =>
      (loadAll fs more).map fun l => { l with unreadable := (path, fault) :: l.unreadable }
    | .ok document =>
      (loadAll fs more).map fun l => { l with documents := (path, document) :: l.documents }

def loadFolders (fs : FileSystem) (paths : List Path) :
    Except ResolveFault (List WorkspaceFolder) :=
  paths.mapM fun path => WorkspaceFolder.load fs path none

/-- The settings of an environment with the executable that a command line asks for. -/
def withExecutable (s : Settings) : Option String → Settings
  | none => s
  | some name => { s with executable := if name = "" then none else some name }

def faultOfSession? (s : Session) : Option LintFault :=
  s.finished.findSome? fun (_, outcome) =>
    match outcome with
    | .ok _ => none
    | .error fault => some fault

def reportsOf (s : Session) (documents : List (Path × Document)) : List FileReport :=
  (documents.zip (s.outcomes documents.length)).map fun ((path, document), outcome) =>
    ⟨path, document.uri, outcome.toOption.getD []⟩

def codeOf (reports : List FileReport) (isIncomplete : Bool) : Nat :=
  if isIncomplete then exitFailure
  else if FileReport.anyBlocking reports then exitDiagnostics
  else exitClean

/-- Whether a command says that nothing was found. -/
def isPraised (format : OutputFormat) (reports : List FileReport) (isIncomplete : Bool) : Bool :=
  codeOf reports isIncomplete = exitClean && format = .text &&
    reports.all fun r => r.diagnostics.isEmpty

def conclude (w : Surroundings) (o : CheckOptions) (p : Preferences) (loaded : Loaded)
    (t : Transcript) (s : Session) : Except CheckFault Finish :=
  match faultOfSession? s with
  | some fault => .error (.lint fault)
  | none =>
    if !s.linter.isOn then .ok ⟨exitFailure, "", t.text⟩
    else
      let reports := reportsOf s loaded.documents
      let isIncomplete := !loaded.unreadable.isEmpty
      match FileReport.render o.format reports with
      | .error fault => .error (.write fault)
      | .ok output =>
        let praise := s!"No issues found in {reports.length} file(s)."
        let t :=
          if isPraised o.format reports isIncomplete then
            t.status p w.isTerminal .success praise
          else t
        .ok ⟨codeOf reports isIncomplete, output, t.text⟩

/-- A command that ends with a message before anything was linted. -/
def refuse (w : Surroundings) (p : Preferences) (message : String) : CheckRun :=
  ⟨.ok ⟨exitFailure, "", (Transcript.status {} p w.isTerminal .failure message).text⟩, []⟩

def breakDown (fault : ResolveFault) : CheckRun := ⟨.error (.resolve fault), []⟩

def checkWith (w : Surroundings) (o : CheckOptions) (p : Preferences) (l : Linter) : CheckRun :=
  match loadAll w.files o.paths with
  | .error fault => breakDown fault
  | .ok loaded =>
    match loadFolders w.files o.folders with
    | .error fault => breakDown fault
    | .ok folders =>
      let t := loaded.unreadable.foldl (fun (t : Transcript) (path, fault) =>
        t.status p w.isTerminal .failure s!"Unable to read {path}: {fault.message}") {}
      let requests := loaded.documents.map fun (_, document) => LintRequest.mk document folders
      let s := Session.lintAll (Session.mk l [] [] [] []) w.files w.runner requests
      let t := s.log.foldl (fun (t : Transcript) entry => t.log p w.isTerminal entry) t
      ⟨conclude w o p loaded t s, s.runs.map Prod.snd⟩

def check (w : Surroundings) (o : CheckOptions) : CheckRun :=
  let p : Preferences := { emoji := o.emoji, debug := o.debug }
  match Settings.ofEnvironment w.environment with
  | .error fault => refuse w p fault.message
  | .ok settings =>
    match o.cwd.mapM w.files.resolve with
    | .error fault => breakDown fault
    | .ok cwd =>
      let l := Linter.ofConfig ((withExecutable settings o.executable).toConfig cwd)
      if l.isOn then checkWith w o p l else refuse w p "No ShellCheck executable configured."

end LintBridge.CommandLine
