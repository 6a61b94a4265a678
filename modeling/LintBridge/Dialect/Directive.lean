import LintBridge.Text.Blank
import LintBridge.Text.Lines
import LintBridge.Text.Word

/-!
The shell that a directive in the header of a script names.

A directive is a comment line of the form `# shellcheck … shell=NAME …`. The name is the one behind
the last `shell=` that follows a blank and has a name. The header is every line in front of the
first one that is neither blank nor a comment, and its first directive with a name counts.
-/
set_option autoImplicit false

namespace LintBridge.Directive

def isNameChar (c : Char) : Bool := Text.isWord c || c == '-'

/-- What stands behind a word that a text starts with. -/
def after? : List Char → List Char → Option (List Char)
  | [], text => some text
  | _ :: _, [] => none
  | w :: word, c :: text => if w = c then after? word text else none

def nameAt? (text : List Char) : Option (List Char) := do
  let behind ← after? "shell=".toList text
  let name := behind.takeWhile isNameChar
  if name.isEmpty then none else some name

/-- The name behind the last `shell=` that follows a blank and has a name. -/
def lastName? : List Char → Option (List Char)
  | [] => none
  | c :: rest =>
    match lastName? rest with
    | some name => some name
    | none => if Text.isBlank c then nameAt? rest else none

/-- The name that a line without blanks around it gives as a directive. -/
def ofLine? (line : List Char) : Option (List Char) := do
  let comment ← after? ['#'] line
  let settings ← after? "shellcheck".toList (Text.trimStart comment)
  if (settings.head?.map Text.isBlank).getD false then lastName? settings else none

/-- Whether a line without blanks around it ends the header. -/
def endsHeader (line : List Char) : Bool :=
  match line.head? with
  | none => false
  | some c => c != '#'

def ofLines? : List (List Char) → Option (List Char)
  | [] => none
  | line :: more =>
    let line := Text.trim line
    if endsHeader line then none
    else
      match ofLine? line with
      | some name => some name
      | none => ofLines? more

def ofText? (text : List Char) : Option String :=
  (ofLines? (Text.splitLines text)).map String.ofList

end LintBridge.Directive
