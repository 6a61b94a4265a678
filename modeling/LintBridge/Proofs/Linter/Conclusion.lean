import LintBridge.Linter.Session

/-!
# What an answer does to a call and to its linter

The outcome of a call is a function of the answer alone (`conclude_outcome`): neither the document
nor the state of the linter has a say in it. An answer changes the linter only if it says that the
executable is missing, and then only turns it off (`conclude_linter`). The warning with which
linting is turned off is logged by a linter that is on and by no other answer
(`countP_conclude_log`).
-/
set_option autoImplicit false

namespace LintBridge

/-- Whether a message is a warning that linting is turned off. -/
def LogEntry.isDisabling (entry : LogEntry) : Bool :=
  entry.level == .warning && Linter.disabledMessage.toList.isPrefixOf entry.text.toList

namespace Answer

def isUnavailable : Answer → Bool
  | .error (.unavailable _ _) => true
  | _ => false

/-- How a call ends whose command got an answer. -/
def outcome : Answer → LintOutcome
  | .ok c =>
    match Report.diagnosticsOfText c.output with
    | .ok diagnostics => .ok diagnostics
    | .error fault => if fault.isLimit then .error (.output fault) else .ok []
  | .error (.unavailable _ _) => .ok []
  | .error (.timedOut _ _) => .ok []
  | .error (.workingDirectory _) => .ok []
  | .error (.invalid _) => .ok []
  | .error fault => .error (.run fault)

theorem exists_of_isUnavailable {a : Answer} (missing : isUnavailable a = true) :
    ∃ name reason, a = .error (.unavailable name reason) := by
  unfold isUnavailable at missing
  split at missing
  · exact ⟨_, _, rfl⟩
  · cases missing

end Answer

/-! ## The texts of warnings -/

theorem isPrefixOf_of_first_difference {before rest other : List Char} {c d : Char} (h : c ≠ d) :
    (before ++ c :: rest).isPrefixOf (before ++ d :: other) = false := by
  induction before with
  | nil => simp [List.isPrefixOf, h]
  | cons b before ih => simpa using ih

theorem message_timedOut (executable : String) (limit : Binary64) :
    (RunFault.timedOut executable limit).message =
      "Command '" ++ (executable ++ ("' timed out after " ++ (limit.showTenths ++ "s"))) := by
  have spelled : (RunFault.timedOut executable limit).message =
      s!"Command '{executable}' timed out after {limit.showTenths}s" := rfl
  rw [spelled]
  simp only [toString, String.append_assoc]

/-- A warning about time that is up parts from the one about a missing executable at the letter
behind the name of the analyser. -/
theorem timeUp_not_isDisabling (executable uri : String) (limit : Binary64) :
    let message := (RunFault.timedOut executable limit).message
    LogEntry.isDisabling
      ⟨.warning, s!"ShellCheck: {message}; skipping diagnostics for {uri}"⟩ = false := by
  have disabled : Linter.disabledMessage.toList = "ShellCheck: ".toList ++
      'd' :: "isabling linting as no executable was found at path".toList := by decide +kernel
  have command : "Command '".toList = 'C' :: "ommand '".toList := by decide +kernel
  intro message
  simp only [LogEntry.isDisabling, message, message_timedOut, toString, String.append_assoc]
  rw [String.toList_append, String.toList_append, disabled, command, List.cons_append,
    isPrefixOf_of_first_difference (by decide), Bool.and_false]

theorem disabled_isDisabling (name reason : String) :
    LogEntry.isDisabling ⟨.warning, s!"{Linter.disabledMessage} '{name}' ({reason})"⟩ = true := by
  simp [LogEntry.isDisabling, toString, List.append_assoc]

theorem not_isDisabling_of_error (text : String) : LogEntry.isDisabling ⟨.error, text⟩ = false :=
  rfl

/-! ## Conclusions -/

namespace Linter

theorem concludeOutput_linter (l : Linter) (d : Document) (c : Completion) :
    (l.concludeOutput d c).linter = l := by
  simp only [concludeOutput]
  cases Report.diagnosticsOfText c.output with
  | ok diagnostics => rfl
  | error fault => by_cases limit : fault.isLimit = true <;> simp [limit, conclusionWith]

theorem concludeOutput_outcome (l : Linter) (d : Document) (c : Completion) :
    (l.concludeOutput d c).outcome = Answer.outcome (.ok c) := by
  simp only [concludeOutput, Answer.outcome]
  cases Report.diagnosticsOfText c.output with
  | ok diagnostics => rfl
  | error fault => by_cases limit : fault.isLimit = true <;> simp [limit, conclusionWith]

theorem countP_concludeOutput_log (l : Linter) (d : Document) (c : Completion) :
    (l.concludeOutput d c).log.countP LogEntry.isDisabling = 0 := by
  simp only [concludeOutput]
  cases Report.diagnosticsOfText c.output with
  | ok diagnostics => rfl
  | error fault =>
      by_cases limit : fault.isLimit = true <;>
        simp [limit, conclusionWith, not_isDisabling_of_error]

theorem conclude_ok (l : Linter) (d : Document) (c : Completion) :
    l.conclude d (.ok c) = l.concludeOutput d c := rfl

theorem conclude_linter (l : Linter) (d : Document) (a : Answer) :
    (l.conclude d a).linter = { l with isOn := l.isOn && !Answer.isUnavailable a } := by
  cases a with
  | ok c =>
      rw [conclude_ok, concludeOutput_linter]
      simp [Answer.isUnavailable]
  | error fault =>
      cases fault with
      | unavailable executable reason =>
          cases on : l.isOn <;> simp [conclude, turnOff, on, conclusionWith, Answer.isUnavailable]
          cases l
          simp_all
      | _ => simp [conclude, conclusionWith, Answer.isUnavailable]

theorem conclude_outcome (l : Linter) (d : Document) (a : Answer) :
    (l.conclude d a).outcome = Answer.outcome a := by
  cases a with
  | ok c => exact concludeOutput_outcome l d c
  | error fault =>
      cases fault with
      | unavailable executable reason =>
          cases on : l.isOn <;> simp [conclude, turnOff, on, conclusionWith, Answer.outcome]
      | _ => simp [conclude, conclusionWith, Answer.outcome]

theorem countP_conclude_log (l : Linter) (d : Document) (a : Answer) :
    (l.conclude d a).log.countP LogEntry.isDisabling =
      if l.isOn && Answer.isUnavailable a then 1 else 0 := by
  cases a with
  | ok c =>
      rw [conclude_ok, countP_concludeOutput_log]
      simp [Answer.isUnavailable]
  | error fault =>
      cases fault with
      | unavailable executable reason =>
          cases on : l.isOn <;>
            simp [conclude, turnOff, on, conclusionWith, Answer.isUnavailable, disabled_isDisabling]
      | timedOut executable limit =>
          simp [conclude, conclusionWith, Answer.isUnavailable, timeUp_not_isDisabling]
      | _ => simp [conclude, conclusionWith, Answer.isUnavailable, not_isDisabling_of_error]

end Linter

end LintBridge
