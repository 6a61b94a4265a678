import LintBridge.Json.Printer
import LintBridge.Path
import LintBridge.Report

/-!
The findings about files, written out.

As text each diagnostic is one line: path, line and column from one, severity, code and message.
As JSON all files are one array. What goes to an output that is no terminal loses its terminal
control sequences: an escape character, a bracket, parameters and the letter that ends them.
-/
set_option autoImplicit false

namespace LintBridge

structure FileReport where
  path : Path
  uri : String
  diagnostics : List Diagnostic

inductive OutputFormat where
  | text
  | json
  deriving DecidableEq, Repr

namespace OutputFormat

def all : List OutputFormat := [text, json]

def name : OutputFormat → String
  | text => "text"
  | json => "json"

def ofName? (name : String) : Option OutputFormat := all.find? (·.name == name)

end OutputFormat

/-- What follows a control sequence whose parameters start the given text, if it is one. -/
def controlSequenceEnd? : List Char → Option (List Char)
  | [] => none
  | c :: rest =>
    if c.isDigit || c == ';' || c == '?' then controlSequenceEnd? rest
    else if c.isAlpha then some rest
    else none

theorem length_of_controlSequenceEnd? {text rest : List Char}
    (h : controlSequenceEnd? text = some rest) : rest.length < text.length := by
  induction text with
  | nil => simp [controlSequenceEnd?] at h
  | cons c more ih =>
      simp only [controlSequenceEnd?] at h
      split at h
      · have := ih h
        simp only [List.length_cons]
        omega
      · split at h
        · obtain rfl := Option.some.inj h
          simp
        · simp at h

def stripControlSequences : List Char → List Char
  | [] => []
  | '\x1b' :: '[' :: behind =>
    match h : controlSequenceEnd? behind with
    | some after =>
      have := length_of_controlSequenceEnd? h
      stripControlSequences after
    | none => '\x1b' :: '[' :: stripControlSequences behind
  | c :: rest => c :: stripControlSequences rest
termination_by text => text.length
decreasing_by all_goals simp only [List.length_cons]; omega

/-- A text and a line feed, as they arrive at an output that is no terminal. -/
def printed (text : String) : String :=
  String.ofList (stripControlSequences text.toList) ++ "\n"

def Diagnostic.line (path : Path) (d : Diagnostic) : String :=
  let line := d.range.start.line + 1
  let column := d.range.start.character + 1
  s!"{path}:{line}:{column}: {d.severity.label} [{d.code}] {d.message}"

/-- The line of a diagnostic, unless its place has too many digits. Places that were read have few
enough. -/
def Diagnostic.writeLine (path : Path) (d : Diagnostic) : Except Json.WriteError String :=
  if isWritable (d.range.start.line + 1) && isWritable (d.range.start.character + 1) then
    .ok (d.line path)
  else .error .integerTooLong

namespace FileReport

def toJson (r : FileReport) : Json :=
  .obj [("uri", .str r.uri), ("diagnostics", .arr (r.diagnostics.map Diagnostic.toJson))]

def render (format : OutputFormat) (reports : List FileReport) :
    Except Json.WriteError String :=
  match format with
  | .json => (Json.render (.arr (reports.map toJson))).map printed
  | .text =>
    .ok (String.join (reports.flatMap fun r => r.diagnostics.map fun d => printed (d.line r.path)))

def anyBlocking (reports : List FileReport) : Bool :=
  reports.any fun r => r.diagnostics.any fun d => d.severity.isBlocking

end FileReport

end LintBridge
