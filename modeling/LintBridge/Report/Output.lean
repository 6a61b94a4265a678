import LintBridge.Json.Parser
import LintBridge.Report

/-!
From the output of the analyser to diagnostics.

Output is usable if it is JSON text, describes a report, and every level in it has a severity. Any
fault makes all of it unusable.
-/
set_option autoImplicit false

namespace LintBridge

inductive OutputFault where
  | text (error : Json.ParseError)
  | report (violations : List Violation)
  | level (error : UnknownLevel)

def OutputFault.message : OutputFault → String
  | .text error => error.message
  | .report violations => Report.refusal violations
  | .level error => error.message

def OutputFault.isLimit : OutputFault → Bool
  | .text error => error.isLimit
  | _ => false

def Report.ofText (text : String) : Except OutputFault Report :=
  match Json.parse text with
  | .error error => .error (.text error)
  | .ok value =>
    match Report.ofJson value with
    | .error violations => .error (.report violations)
    | .ok report => .ok report

def Report.diagnosticsOfText (text : String) : Except OutputFault (List Diagnostic) :=
  match Report.ofText text with
  | .error fault => .error fault
  | .ok report =>
    match report.toDiagnostics with
    | .error error => .error (.level error)
    | .ok diagnostics => .ok diagnostics

end LintBridge
