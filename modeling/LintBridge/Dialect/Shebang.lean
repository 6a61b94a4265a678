import LintBridge.Path
import LintBridge.Text.Blank
import LintBridge.Text.Lines

/-!
The interpreter that the first line of a script names.

The line must start with a number sign and an exclamation mark, blanks around it aside. The
interpreter is the last name of the path that follows; if that is `env`, it is the last name of the
first word behind it that is no option.
-/
set_option autoImplicit false

namespace LintBridge.Shebang

def baseName (path : List Char) : String := (Path.ofText path).name

/-- The command that a line starting with a shebang names: its path, and the words behind it. -/
def command? (line : List Char) : Option (List Char × List (List Char)) :=
  match Text.trim line with
  | '#' :: '!' :: rest =>
    match Text.words rest with
    | [] => none
    | path :: arguments => some (path, arguments)
  | _ => none

def interpreter? (line : List Char) : Option String := do
  let (path, arguments) ← command? line
  let name := baseName path
  if name = "env" then
    (arguments.find? fun word => word.head? != some '-').map baseName
  else some name

def ofText? (text : List Char) : Option String := interpreter? (Text.firstLine text)

end LintBridge.Shebang
