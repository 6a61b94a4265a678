import LintBridge.CommandLine.Listing
import LintBridge.CommandLine.Options
import LintBridge.FileReport
import LintBridge.FileSystem.Resolution
import LintBridge.Text.LowerCase

/-!
The options and arguments of the command that checks scripts.

Of an option that is given several times the last value counts, but every workspace folder does. The
format is named in letters of any case. Values are looked at in the order in which their options
were first given, and the paths last.
-/
set_option autoImplicit false

namespace LintBridge.CommandLine

inductive CheckKey where
  | executable
  | cwd
  | folder
  | format
  | plain
  | debug
  | help
  deriving DecidableEq, Repr

def checkForms : List (OptionForm CheckKey) :=
  [⟨.executable, ["--shellcheck-path"], true⟩, ⟨.cwd, ["--cwd"], true⟩,
    ⟨.folder, ["--workspace-folder", "-w"], true⟩, ⟨.format, ["--format"], true⟩,
    ⟨.plain, ["--no-emoji"], false⟩, ⟨.debug, ["--debug"], false⟩, ⟨.help, ["--help"], false⟩]

def CheckKey.explanation : CheckKey → String
  | .executable => "ShellCheck executable (overrides SHELLCHECK_PATH)."
  | .cwd => "Base directory for resolving sourced files."
  | .folder => "Additional directory searched for sourced files."
  | .format => "Diagnostic output format."
  | .plain => "Disable emoji in log output."
  | .debug => "Log the ShellCheck command lines."
  | .help => "Show this message and exit."

def checkParameters : List Parameter :=
  ⟨[], [], some "paths", true, some ("paths", "Shell scripts to lint.")⟩ ::
    checkForms.map fun form =>
      ⟨form.names, [], none, false, some (", ".intercalate form.names, form.key.explanation)⟩

structure CheckOptions where
  /-- The executable that overrides the settings; an empty name means that there is none. -/
  executable : Option String
  cwd : Option Path
  folders : List Path
  format : OutputFormat
  emoji : Bool
  debug : Bool
  paths : List Path

/-- A letter in the form in which letters are compared without regard to case. -/
def foldLetter (c : Char) : List Char := if c = 'ſ' then ['s'] else Text.lowerChar c

def formatOfName? (name : String) : Option OutputFormat :=
  OutputFormat.ofName? (String.ofList (name.toList.flatMap foldLetter))

def valuesOf (settings : List (Setting CheckKey)) (key : CheckKey) : List String :=
  (settings.filter (·.key == key)).map Setting.value

/-- Whether a text holds the character that no path can hold. -/
def isNoPath (text : String) : Bool := (Path.ofString text).hasNul

def faultOf? (settings : List (Setting CheckKey)) (form : OptionForm CheckKey) :
    Option UsageFault :=
  let values := valuesOf settings form.key
  let last := values.getLast?.getD ""
  match form.key with
  | .format =>
    if (formatOfName? last).isSome then none
    else some (.badChoice "--format" last (OutputFormat.all.map OutputFormat.name))
  | .cwd => if isNoPath last then some (.badPath form.names) else none
  | .folder => if values.any isNoPath then some (.badPath form.names) else none
  | _ => none

def firstFault? (words : Words CheckKey) : Option UsageFault :=
  let forms := words.settings.flatMap fun s => checkForms.filter (·.key == s.key)
  match forms.findSome? (faultOf? words.settings) with
  | some fault => some fault
  | none =>
    if words.arguments.isEmpty then some (.missingArgument "paths")
    else if words.arguments.any isNoPath then some (.badPath ["paths"])
    else none

def CheckOptions.ofWords (words : Words CheckKey) : CheckOptions :=
  let last := fun key => (valuesOf words.settings key).getLast?
  let isGiven := fun key => words.settings.any (·.key == key)
  { executable := last .executable
    cwd := (last .cwd).map Path.ofString
    folders := (valuesOf words.settings .folder).map Path.ofString
    format := ((last .format).bind formatOfName?).getD .text
    emoji := !isGiven .plain
    debug := isGiven .debug
    paths := words.arguments.map Path.ofString }

/-- What the words behind the name of the command ask for; none stands for help. -/
def CheckOptions.read (arguments : List String) : Except UsageFault (Option CheckOptions) :=
  match readWords checkForms true arguments with
  | .error fault => .error fault.fault
  | .ok words =>
    if words.settings.any (·.key == .help) then .ok none
    else
      match firstFault? words with
      | some fault => .error fault
      | none => .ok (some (CheckOptions.ofWords words))

end LintBridge.CommandLine
