/-!
Severities of diagnostics.

Four severities are ranked from one, the gravest, to four. An analyser names its levels by other
words; a level outside its vocabulary has no severity.
-/
set_option autoImplicit false

namespace LintBridge

inductive Severity where
  | error
  | warning
  | information
  | hint
  deriving DecidableEq, Repr

namespace Severity

def all : List Severity := [error, warning, information, hint]

/-- The rank that editors know a severity by. -/
def rank : Severity → Nat
  | error => 1
  | warning => 2
  | information => 3
  | hint => 4

def ofRank? (n : Int) : Option Severity := all.find? fun s => (s.rank : Int) == n

def label : Severity → String
  | error => "error"
  | warning => "warning"
  | information => "info"
  | hint => "hint"

def ofLevel? : String → Option Severity
  | "error" => some error
  | "warning" => some warning
  | "info" => some information
  | "style" => some hint
  | _ => none

def isBlocking (s : Severity) : Bool := s.rank ≤ warning.rank

theorem ofRank?_rank (s : Severity) : ofRank? s.rank = some s := by cases s <;> rfl

theorem isBlocking_iff (s : Severity) : s.isBlocking = true ↔ s = error ∨ s = warning := by
  cases s <;> decide

end Severity

end LintBridge
