import LintBridge.LinterConfig
import LintBridge.ShellWords

/-!
What a user may set: the analyser to run, further arguments for it, and a limit on its time.

Settings come from variables of the environment or from an object with checked fields. A variable
that is set wins over the standard value; the name of the analyser loses the blanks around it, and
an empty name means that there is no analyser. Each field can be assigned later: an assignment that
fails changes nothing, and one to a name that starts with an underscore touches no field.
-/
set_option autoImplicit false

namespace LintBridge

abbrev Environment := List (String × String)

structure Settings where
  executable : Option String := some "shellcheck"
  arguments : List String := []
  timeout : Timeout := Timeout.standard
  deriving DecidableEq, Repr

inductive SettingsFault where
  | arguments (fault : ShellWords.Fault)
  | timeout (fault : Timeout.Fault)
  deriving DecidableEq, Repr

def SettingsFault.message : SettingsFault → String
  | .arguments fault => s!"SHELLCHECK_ARGUMENTS could not be parsed: {fault.message}"
  | .timeout (.notNumber text) =>
    s!"SHELLCHECK_TIMEOUT must be a number of seconds, got '{text}'"
  | .timeout (.outOfRange text) =>
    s!"SHELLCHECK_TIMEOUT must be a non-negative finite number, got '{text}'"

namespace Settings

def executableOfText (text : String) : Option String :=
  let name := String.ofList (Text.trim text.toList)
  if name = "" then none else some name

def argumentsOfText (text : String) : Except ShellWords.Fault (List String) :=
  (ShellWords.split text.toList).map fun words => words.map String.ofList

def environmentArguments (env : Environment) : Except SettingsFault (List String) :=
  match env.lookup "SHELLCHECK_ARGUMENTS" with
  | none => .ok []
  | some text =>
    match argumentsOfText text with
    | .ok arguments => .ok arguments
    | .error fault => .error (.arguments fault)

def environmentTimeout (env : Environment) : Except SettingsFault Timeout :=
  match env.lookup "SHELLCHECK_TIMEOUT" with
  | none => .ok Timeout.standard
  | some text =>
    match Timeout.ofText text with
    | .ok timeout => .ok timeout
    | .error fault => .error (.timeout fault)

/-- The settings of an environment; faults of the arguments are found first. -/
def ofEnvironment (env : Environment) : Except SettingsFault Settings := do
  let executable :=
    match env.lookup "SHELLCHECK_PATH" with
    | some text => executableOfText text
    | none => some "shellcheck"
  let arguments ← environmentArguments env
  let timeout ← environmentTimeout env
  .ok { executable, arguments, timeout }

def ofEntries (entries : List (String × Json)) : Checked Settings :=
  let executable :=
    Json.fieldOrElse entries "shellcheck_path" (some "shellcheck") (Json.optional Json.text)
  let arguments := Json.fieldOrElse entries "shellcheck_arguments" [] (Json.texts .list)
  let timeout := Json.fieldOrElse entries "timeout" Timeout.standard Timeout.ofJson
  match executable, arguments, timeout with
  | .ok executable, .ok arguments, .ok timeout => .ok { executable, arguments, timeout }
  | _, _, _ => .error (executable.violations ++ arguments.violations ++ timeout.violations)

/-- Whether a name is that of something other than a field. What has such a name is kept apart. -/
def isPrivate (name : String) : Bool := name.toList.head?.isEqSome '_'

def assign (s : Settings) (name : String) (value : Json) : Checked Settings :=
  match name with
  | "shellcheck_path" =>
    (Json.optional Json.text [.key name] value).map fun executable => { s with executable }
  | "shellcheck_arguments" =>
    (Json.texts .list [.key name] value).map fun arguments => { s with arguments }
  | "timeout" => (Timeout.ofJson [.key name] value).map fun timeout => { s with timeout }
  | _ => if isPrivate name then .ok s else violation [.key name] (.knownField name)

def toConfig (s : Settings) (cwd : Option Path) : LinterConfig :=
  { executable := s.executable, cwd, arguments := s.arguments, timeout := s.timeout }

end Settings

end LintBridge
