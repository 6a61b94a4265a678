import LintBridge.Diagnostic

/-!
Reports of the analyser ShellCheck.

A report is a JSON object with a list of comments. Reading one checks the fields of every comment
and gathers all violations, in the order of the comments and of the fields; a single violation
refuses the whole report. A comment whose level has a severity becomes one diagnostic, with lines
and columns moved from one-based to zero-based; a report with a level that has none yields no
diagnostic at all.
-/
set_option autoImplicit false

namespace LintBridge

/-- A finding as the analyser reports it. Lines and columns count from one. -/
structure Comment where
  file : String
  line : Int
  endLine : Int
  column : Int
  endColumn : Int
  level : String
  code : Int
  message : String
  /-- A suggested replacement, which is only carried along. -/
  fix : Option (List (String × Json))

structure Report where
  comments : List Comment

structure UnknownLevel where
  level : String
  deriving DecidableEq, Repr

def UnknownLevel.message (e : UnknownLevel) : String := s!"unknown ShellCheck level '{e.level}'"

def Severity.ofLevel (level : String) : Except UnknownLevel Severity :=
  match Severity.ofLevel? level with
  | some severity => .ok severity
  | none => .error ⟨level⟩

namespace Comment

/-- A suggested replacement: an object or nothing. -/
def checkFix (place : List Step) : Json → Checked (Option (List (String × Json)))
  | .null => .ok none
  | .obj entries => .ok (some entries)
  | _ => violation place .dictionary

def ofJson (place : List Step) : Json → Checked Comment
  | .obj entries =>
    let file := Json.field entries place "file" Json.text
    let line := Json.field entries place "line" Json.integer
    let endLine := Json.fieldOr entries place "endLine" "end_line" Json.integer
    let column := Json.field entries place "column" Json.integer
    let endColumn := Json.fieldOr entries place "endColumn" "end_column" Json.integer
    let level := Json.field entries place "level" Json.text
    let code := Json.field entries place "code" Json.integer
    let message := Json.field entries place "message" Json.text
    let fix := Json.field entries place "fix" checkFix
    match file, line, endLine, column, endColumn, level, code, message, fix with
    | .ok file, .ok line, .ok endLine, .ok column, .ok endColumn, .ok level, .ok code, .ok message,
        .ok fix =>
      .ok { file, line, endLine, column, endColumn, level, code, message, fix }
    | _, _, _, _, _, _, _, _, _ =>
      .error (file.violations ++ line.violations ++ endLine.violations ++ column.violations ++
        endColumn.violations ++ level.violations ++ code.violations ++ message.violations ++
        fix.violations)
  | _ => violation place (.record "ShellCheckComment")

def codeName (code : Int) : String := s!"SC{code}"

def wikiPage (code : Int) : String := "https://www.shellcheck.net/wiki/" ++ codeName code

def toDiagnostic (c : Comment) : Except UnknownLevel Diagnostic :=
  (Severity.ofLevel c.level).map fun severity =>
    { range := ⟨⟨c.line - 1, c.column - 1⟩, ⟨c.endLine - 1, c.endColumn - 1⟩⟩
      severity
      code := codeName c.code
      href := wikiPage c.code
      message := c.message
      source := "shellcheck"
      tags := none }

end Comment

namespace Report

/-- The comments that the items of a list describe, the first of them at index `n`. -/
def checkComments (n : Nat) : List Json → List (Checked Comment)
  | [] => []
  | item :: more => Comment.ofJson [.key "comments", .index n] item :: checkComments (n + 1) more

def ofJson : Json → Checked Report
  | .obj entries =>
    (Json.field entries [] "comments" fun place value =>
      match value with
      | .arr items => Checked.all (checkComments 0 items)
      | _ => violation place .list).map Report.mk
  | _ => violation [] (.record "ShellCheckResult")

def refusal (vs : List Violation) : String :=
  "ShellCheck output failed validation: " ++ "; ".intercalate (vs.map Violation.show)

def toDiagnostics (r : Report) : Except UnknownLevel (List Diagnostic) :=
  r.comments.mapM Comment.toDiagnostic

end Report

end LintBridge
