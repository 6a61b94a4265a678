import LintBridge.Proofs.Linter.History
import LintBridge.Proofs.Report.Diagnostics

/-!
# When a call ends with a fault

A call is meant to end with a list of diagnostics whatever it meets, and three things still break it
off: a search for sourced scripts that cannot be set up, output with an integer that has too many
digits, and an answer that is neither output nor one of the failures that a call expects. `Raises`
says so cause by cause, and a call ends with a list exactly if none of them is there.
-/
set_option autoImplicit false

namespace LintBridge

/-- Whether a failure of a command is one that a call expects, and then only logs. -/
def RunFault.isExpected : RunFault → Bool
  | .unavailable _ _ => true
  | .timedOut _ _ => true
  | .workingDirectory _ => true
  | .invalid _ => true
  | _ => false

/-- What breaks a call off whose command, if it runs one, gets an answer. -/
inductive Linter.Raises (l : Linter) (fs : FileSystem) (r : LintRequest) (a : Answer) :
    LintFault → Prop where
  | search (fault : SearchFault) (attempts : l.Attempts r.document)
      (fails : SourceSearch.Fails fs l.config.cwd r.document r.folders fault) :
      Raises l fs r a (.search fault)
  | output (c : Completion) (error : Json.ParseError) (attempts : l.Attempts r.document)
      (ready : ∀ fault, ¬ SourceSearch.Fails fs l.config.cwd r.document r.folders fault)
      (ran : a = .ok c) (failed : Json.parse c.output = .error error)
      (limit : error.isLimit = true) : Raises l fs r a (.output (.text error))
  | run (fault : RunFault) (attempts : l.Attempts r.document)
      (ready : ∀ fault, ¬ SourceSearch.Fails fs l.config.cwd r.document r.folders fault)
      (failed : a = .error fault) (unexpected : fault.isExpected = false) :
      Raises l fs r a (.run fault)

/-! ## Answers -/

theorem Report.diagnosticsOfText_eq_limit {text : String} {fault : OutputFault}
    (failed : diagnosticsOfText text = .error fault) (limit : fault.isLimit = true) :
    ∃ error, fault = .text error ∧ Json.parse text = .error error ∧ error.isLimit = true := by
  obtain ⟨error, parsed, long⟩ := (isLimit_iff_hasLongInteger failed).1 limit
  simp only [diagnosticsOfText, ofText, parsed, Except.error.injEq] at failed
  exact ⟨error, failed.symm, parsed, long⟩

theorem Report.diagnosticsOfText_of_parse_error {text : String} {error : Json.ParseError}
    (parsed : Json.parse text = .error error) :
    diagnosticsOfText text = .error (.text error) := by
  simp only [diagnosticsOfText, ofText, parsed]

theorem Answer.outcome_ok_eq_error_iff (c : Completion) (fault : LintFault) :
    Answer.outcome (.ok c) = .error fault ↔
      ∃ error, Json.parse c.output = .error error ∧ error.isLimit = true ∧
        fault = .output (.text error) := by
  constructor
  · intro failed
    simp only [outcome] at failed
    cases made : Report.diagnosticsOfText c.output with
    | ok ds => simp [made] at failed
    | error f =>
        by_cases limit : f.isLimit = true
        · obtain ⟨error, rfl, parsed, long⟩ := Report.diagnosticsOfText_eq_limit made limit
          simp only [made, limit, if_true, Except.error.injEq] at failed
          exact ⟨error, parsed, long, failed.symm⟩
        · simp [made, limit] at failed
  · rintro ⟨error, parsed, long, rfl⟩
    simp [outcome, Report.diagnosticsOfText_of_parse_error parsed, OutputFault.isLimit, long]

theorem Answer.outcome_error_eq_error_iff (f : RunFault) (fault : LintFault) :
    Answer.outcome (.error f) = .error fault ↔ f.isExpected = false ∧ fault = .run f := by
  cases f <;> simp [outcome, RunFault.isExpected, eq_comm]

/-- An answer of a kind that a call expects. -/
inductive Answer.IsUsual : Answer → Prop where
  | completed (c : Completion) (short : ¬ Json.HasLongInteger c.output) : IsUsual (.ok c)
  | failed (fault : RunFault) (expected : fault.isExpected = true) : IsUsual (.error fault)

theorem Answer.IsUsual.exists_outcome {a : Answer} (usual : a.IsUsual) :
    ∃ ds, Answer.outcome a = .ok ds := by
  cases ended : Answer.outcome a with
  | ok ds => exact ⟨ds, rfl⟩
  | error fault =>
      cases usual with
      | completed c short =>
          obtain ⟨error, failed, limit, -⟩ := (Answer.outcome_ok_eq_error_iff c fault).1 ended
          exact absurd ⟨error, failed, limit⟩ short
      | failed f expected =>
          obtain ⟨unexpected, -⟩ := (Answer.outcome_error_eq_error_iff f fault).1 ended
          rw [expected] at unexpected
          cases unexpected

/-! ## Calls -/

/-- A call breaks off exactly for the causes that `Raises` names. -/
theorem Linter.callOutcome_eq_error_iff (l : Linter) (fs : FileSystem) (r : LintRequest)
    (a : Answer) (fault : LintFault) :
    l.callOutcome fs r a = .error fault ↔ l.Raises fs r a fault := by
  rcases l.prepare_cases fs r.document r.folders with
    ⟨idle, prepared⟩ | ⟨attempts, f, fails, prepared⟩ | ⟨attempts, ready, i, debug, -, prepared⟩
  · -- a document that is left alone
    simp only [callOutcome, prepared, reduceCtorEq, false_iff]
    rintro (⟨_, attempts, -⟩ | ⟨_, _, attempts, -⟩ | ⟨_, attempts, -⟩) <;> exact idle attempts
  · -- no search can be set up, so that no command runs
    simp only [callOutcome, prepared, Except.error.injEq]
    constructor
    · rintro rfl
      exact .search f attempts fails
    · intro raises
      cases raises with
      | search f' _ fails' =>
          have same := (SourceSearch.ofDocument_of_fails fails).symm.trans
            (SourceSearch.ofDocument_of_fails fails')
          rw [Except.error.inj same]
      | output c error _ ready ran failed limit => exact absurd fails (ready f)
      | run g _ ready failed unexpected => exact absurd fails (ready f)
  · -- the command runs, and the answer decides
    simp only [callOutcome, prepared]
    cases a with
    | ok c =>
        rw [Answer.outcome_ok_eq_error_iff]
        constructor
        · rintro ⟨error, failed, limit, rfl⟩
          exact .output c error attempts ready rfl failed limit
        · intro raises
          cases raises with
          | search f _ fails => exact absurd fails (ready f)
          | output c' error _ _ ran failed limit =>
              obtain rfl := Except.ok.inj ran
              exact ⟨error, failed, limit, rfl⟩
          | run g _ _ failed unexpected => cases failed
    | error f =>
        rw [Answer.outcome_error_eq_error_iff]
        constructor
        · rintro ⟨unexpected, rfl⟩
          exact .run f attempts ready rfl unexpected
        · intro raises
          cases raises with
          | search f' _ fails => exact absurd fails (ready f')
          | output c error _ _ ran failed limit => cases ran
          | run g _ _ failed unexpected =>
              obtain rfl := Except.error.inj failed
              exact ⟨unexpected, rfl⟩

namespace Session

end Session

end LintBridge
