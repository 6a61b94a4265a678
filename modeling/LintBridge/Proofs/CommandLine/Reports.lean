import LintBridge.CommandLine.Check
import LintBridge.Proofs.Linter.Conclusion
import LintBridge.Proofs.Report.Diagnostics
import LintBridge.Proofs.Report.Rendering

/-!
# What is reported on documents

`Reported` says what the reports on some documents are, given the answer for each of them: one for
each document, in order, with the diagnostics of the report that its own answer holds. What can be
said of the diagnostics of all reports is then said of the comments that were accepted
(`Reported.exists_diagnostic_iff`).
-/
set_option autoImplicit false

namespace LintBridge

/-- Whether the analyser is run for a document at all. -/
def Document.isSupported (d : Document) : Bool := (Dialect.argument? d.text).isSome

/-- An answer from which a report is taken for a document. -/
structure Accepts (d : Document) (a : Answer) (r : Report) : Prop where
  supported : d.isSupported = true
  held : ∃ c, a = .ok c ∧ Report.Holds c.output r

/-- How a document fares whose search does not fail. -/
def Document.outcome (d : Document) (a : Answer) : LintOutcome :=
  if d.isSupported then Answer.outcome a else .ok []

theorem Document.outcome_of_accepts {d : Document} {a : Answer} {r : Report}
    (accepts : Accepts d a r) :
    ∃ ds, d.outcome a = .ok ds ∧ List.Forall₂ Depicts r.comments ds := by
  obtain ⟨c, rfl, holds⟩ := accepts.held
  obtain ⟨ds, made, depicted⟩ := Report.exists_diagnostics_of_holds holds
  refine ⟨ds, ?_, depicted⟩
  simp only [outcome, accepts.supported, if_true, Answer.outcome, made]

theorem Document.outcome_of_not_accepts {d : Document} {a : Answer}
    (none : ¬ ∃ r, Accepts d a r) : (d.outcome a).toOption.getD [] = [] := by
  unfold outcome
  split
  · rename_i supported
    cases a with
    | ok c =>
        simp only [Answer.outcome]
        cases made : Report.diagnosticsOfText c.output with
        | ok ds =>
            obtain ⟨r, holds, -⟩ := (Report.diagnosticsOfText_eq_ok_iff _ _).1 made
            exact absurd ⟨r, supported, c, rfl, holds⟩ none
        | error fault => by_cases limit : fault.isLimit = true <;> simp [limit, Except.toOption]
    | error fault => cases fault <;> rfl
  · rfl

/-! ## Comments that decide how a run ends -/

/-- A comment with a level that makes a run fail. -/
def Comment.IsBlocking (c : Comment) : Prop := c.level = "error" ∨ c.level = "warning"

theorem Depicts.isBlocking_iff {c : Comment} {d : Diagnostic} (depicts : Depicts c d) :
    d.severity.isBlocking = true ↔ c.IsBlocking := by
  have listed := depicts.severity_mem
  rw [Severity.isBlocking_iff, Comment.IsBlocking]
  cases severity : d.severity <;> simp [severity, levelRanks, Severity.rank] at listed <;>
    simp [listed]

namespace CommandLine

/-- A comment that is accepted for one of some documents. -/
def AcceptsComment (documents : List (Path × Document)) (answers : Nat → Answer) (c : Comment) :
    Prop :=
  ∃ i entry r, documents[i]? = some entry ∧ Accepts entry.2 (answers i) r ∧ c ∈ r.comments

/-- What is reported on a document that was loaded from a path. -/
structure ReportsOn (entry : Path × Document) (a : Answer) (r : FileReport) : Prop where
  path_eq : r.path = entry.1
  uri_eq : r.uri = entry.2.uri
  whole : ∀ accepted, Accepts entry.2 a accepted →
    List.Forall₂ Depicts accepted.comments r.diagnostics
  nothing : (¬ ∃ accepted, Accepts entry.2 a accepted) → r.diagnostics = []

/-- One report on each document, in order. -/
structure Reported (documents : List (Path × Document)) (answers : Nat → Answer)
    (reports : List FileReport) : Prop where
  length_eq : reports.length = documents.length
  each : ∀ i entry r, documents[i]? = some entry → reports[i]? = some r →
    ReportsOn entry (answers i) r

section

variable {documents : List (Path × Document)} {answers : Nat → Answer} {reports : List FileReport}

/-- The diagnostics say what the accepted comments say. -/
theorem Reported.exists_diagnostic_iff (reported : Reported documents answers reports)
    {P : Diagnostic → Prop} {Q : Comment → Prop}
    (transfer : ∀ {c d}, Depicts c d → (P d ↔ Q c)) :
    (∃ r ∈ reports, ∃ d ∈ r.diagnostics, P d) ↔
      ∃ c, AcceptsComment documents answers c ∧ Q c := by
  constructor
  · rintro ⟨r, member, d, member', holds⟩
    obtain ⟨i, bound, found⟩ := List.mem_iff_getElem.1 member
    have at' : reports[i]? = some r := by rw [← found, List.getElem?_eq_getElem bound]
    obtain ⟨entry, listed⟩ : ∃ entry, documents[i]? = some entry :=
      ⟨_, List.getElem?_eq_getElem (reported.length_eq ▸ bound)⟩
    have on := reported.each i entry r listed at'
    by_cases accepted : ∃ report, Accepts entry.2 (answers i) report
    · obtain ⟨report, accepts⟩ := accepted
      obtain ⟨c, member, depicts⟩ := exists_left_of_forall₂ (on.whole report accepts) member'
      exact ⟨c, ⟨i, entry, report, listed, accepts, member⟩, (transfer depicts).1 holds⟩
    · rw [on.nothing accepted] at member'
      cases member'
  · rintro ⟨c, ⟨i, entry, report, listed, accepts, member⟩, holds⟩
    have bound := (List.getElem?_eq_some_iff.1 listed).1
    obtain ⟨r, at'⟩ : ∃ r, reports[i]? = some r :=
      ⟨_, List.getElem?_eq_getElem (reported.length_eq ▸ bound)⟩
    have on := reported.each i entry r listed at'
    obtain ⟨d, member', depicts⟩ := exists_right_of_forall₂ (on.whole report accepts) member
    exact ⟨r, List.mem_of_getElem? at', d, member', (transfer depicts).2 holds⟩

theorem Reported.anyBlocking_iff (reported : Reported documents answers reports) :
    FileReport.anyBlocking reports = true ↔
      ∃ c, AcceptsComment documents answers c ∧ c.IsBlocking := by
  rw [FileReport.anyBlocking, List.any_eq_true]
  simp only [List.any_eq_true]
  exact reported.exists_diagnostic_iff Depicts.isBlocking_iff

/-- The reports cannot be printed exactly if they are asked for as JSON and an extreme comment was
accepted. -/
theorem Reported.render_eq_error_iff (reported : Reported documents answers reports)
    (format : OutputFormat) (e : Json.WriteError) :
    FileReport.render format reports = .error e ↔
      e = .integerTooLong ∧ format = .json ∧
        ∃ c, AcceptsComment documents answers c ∧ c.IsExtreme := by
  rw [FileReport.render_eq_error_iff, FileReport.exists_long_integer_iff,
    reported.exists_diagnostic_iff Depicts.isExtreme_iff]

/-- The reports of a session in which every document has fared as its own answer says. -/
theorem reported_of_outcomes {s : Session}
    (outcomes : ∀ i entry, documents[i]? = some entry →
      s.outcome? i = some (entry.2.outcome (answers i))) :
    Reported documents answers (reportsOf s documents) := by
  have length_eq : (s.outcomes documents.length).length = documents.length := by
    simp [Session.outcomes]
  refine ⟨by simp [reportsOf, length_eq], fun i entry r listed at' => ?_⟩
  have bound := (List.getElem?_eq_some_iff.1 listed).1
  have ended : (s.outcomes documents.length)[i]? = some (entry.2.outcome (answers i)) := by
    simp [Session.outcomes, bound, outcomes i entry listed]
  have paired : (documents.zip (s.outcomes documents.length))[i]? =
      some (entry, entry.2.outcome (answers i)) := by
    rw [List.getElem?_zip_eq_some]
    exact ⟨listed, ended⟩
  rw [reportsOf, List.getElem?_map, paired, Option.map_some, Option.some.injEq] at at'
  subst at'
  refine ⟨rfl, rfl, fun report accepts => ?_, fun none => ?_⟩
  · obtain ⟨ds, outcome, depicted⟩ := Document.outcome_of_accepts accepts
    simpa [outcome, Except.toOption] using depicted
  · exact Document.outcome_of_not_accepts none

end

end CommandLine

end LintBridge
