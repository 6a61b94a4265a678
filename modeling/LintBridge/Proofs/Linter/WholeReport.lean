import LintBridge.Proofs.Linter.History
import LintBridge.Proofs.Report.Diagnostics

/-!
# A call yields the whole report or nothing

The output of a command that has run to its end is either a report, and then the call ends with one
diagnostic for each comment, or the call ends without diagnostics. Neither the code of the command
nor its error output counts, and the linter is left as it was.
-/
set_option autoImplicit false

namespace LintBridge

/-- Without a long integer a call ends with the diagnostics of a report or with none. -/
theorem Answer.outcome_ok {c : Completion} (short : ¬ Json.HasLongInteger c.output) :
    ∃ ds, Answer.outcome (.ok c) = .ok ds ∧
      (∀ r, Report.Holds c.output r → List.Forall₂ Depicts r.comments ds) ∧
      ((¬ ∃ r, Report.Holds c.output r) → ds = []) := by
  cases made : Report.diagnosticsOfText c.output with
  | ok ds =>
      obtain ⟨r, holds, depicted⟩ := (Report.diagnosticsOfText_eq_ok_iff _ _).1 made
      refine ⟨ds, by simp only [outcome, made], ?_, fun none => absurd ⟨r, holds⟩ none⟩
      intro r' holds'
      obtain rfl := holds.unique holds'
      exact depicted
  | error fault =>
      have soft : ¬ fault.isLimit = true := by
        intro limit
        apply short
        exact (Report.isLimit_iff_hasLongInteger made).1 limit
      refine ⟨[], by simp only [outcome, made, if_neg soft], ?_, fun _ => rfl⟩
      intro r holds
      obtain ⟨ds, made', -⟩ := Report.exists_diagnostics_of_holds holds
      rw [made] at made'
      cases made'

theorem Linter.conclude_completion_linter (l : Linter) (d : Document) (c : Completion) :
    (l.conclude d (.ok c)).linter = l := by
  rw [conclude_ok, concludeOutput_linter]

namespace Session

end Session

end LintBridge
