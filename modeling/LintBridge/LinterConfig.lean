import LintBridge.Path
import LintBridge.Timeout

/-!
The configuration of a linter: the analyser to run, the directory to run it in, further arguments
for it, and a limit on its time. A field that is not given has its standard value, and fields of
other names are ignored.
-/
set_option autoImplicit false

namespace LintBridge

namespace Json

def optional {α : Type} (check : List Step → Json → Checked α) (place : List Step) :
    Json → Checked (Option α)
  | .null => .ok none
  | value => (check place value).map some

/-- The outcomes for the strings of an array, the first of them at index `n`. -/
def checkTexts (place : List Step) (n : Nat) : List Json → List (Checked String)
  | [] => []
  | item :: more => text (place ++ [.index n]) item :: checkTexts place (n + 1) more

/-- An array of strings; what else a value should be is said by `expected`. -/
def texts (expected : Expectation) (place : List Step) : Json → Checked (List String)
  | .arr items => Checked.all (checkTexts place 0 items)
  | _ => violation place expected

def path (place : List Step) : Json → Checked Path
  | .str s => .ok (Path.ofString s)
  | _ => violation place .path

/-- The entry of an object under a key, checked; a missing key has the standard value. -/
def fieldOrElse {α : Type} (entries : List (String × Json)) (key : String) (standard : α)
    (check : List Step → Json → Checked α) : Checked α :=
  match entries.lookup key with
  | some value => check [.key key] value
  | none => .ok standard

end Json

structure LinterConfig where
  executable : Option String := none
  cwd : Option Path := none
  arguments : List String := []
  timeout : Timeout := Timeout.standard

namespace LinterConfig

def isEnabled (c : LinterConfig) : Bool :=
  match c.executable with
  | some name => name != ""
  | none => false

def ofEntries (entries : List (String × Json)) : Checked LinterConfig :=
  let executable := Json.fieldOrElse entries "executable_path" none (Json.optional Json.text)
  let cwd := Json.fieldOrElse entries "cwd" none (Json.optional Json.path)
  let arguments := Json.fieldOrElse entries "arguments" [] (Json.texts .tuple)
  let timeout := Json.fieldOrElse entries "timeout" Timeout.standard Timeout.ofJson
  match executable, cwd, arguments, timeout with
  | .ok executable, .ok cwd, .ok arguments, .ok timeout =>
    .ok { executable, cwd, arguments, timeout }
  | _, _, _, _ =>
    .error (executable.violations ++ cwd.violations ++ arguments.violations ++ timeout.violations)

end LinterConfig

end LintBridge
