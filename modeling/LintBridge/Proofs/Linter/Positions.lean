import LintBridge.Proofs.Linter.WholeReport

/-!
# Where diagnostics are placed

The places of a diagnostic count from zero if those of its comment count from one, and only then: no
comment is refused for its places. A report with a place below one is mapped like any other, and the
place comes out below zero (`zero_based_iff_counted_from_one`).
-/
set_option autoImplicit false

namespace LintBridge

def Position.IsZeroBased (p : Position) : Prop := 0 ≤ p.line ∧ 0 ≤ p.character

def Diagnostic.IsZeroBased (d : Diagnostic) : Prop :=
  d.range.start.IsZeroBased ∧ d.range.stop.IsZeroBased

structure Comment.IsOneBased (c : Comment) : Prop where
  line : 1 ≤ c.line
  column : 1 ≤ c.column
  endLine : 1 ≤ c.endLine
  endColumn : 1 ≤ c.endColumn

theorem Depicts.isZeroBased_iff {c : Comment} {d : Diagnostic} (depicts : Depicts c d) :
    d.IsZeroBased ↔ c.IsOneBased := by
  rw [Diagnostic.IsZeroBased, depicts.start_eq, depicts.stop_eq]
  simp only [Position.IsZeroBased]
  constructor
  · rintro ⟨⟨line, column⟩, endLine, endColumn⟩
    exact ⟨by omega, by omega, by omega, by omega⟩
  · intro counted
    obtain ⟨line, column, endLine, endColumn⟩ := counted
    omega

theorem forall_isZeroBased_iff {cs : List Comment} {ds : List Diagnostic}
    (depicted : List.Forall₂ Depicts cs ds) :
    (∀ d ∈ ds, d.IsZeroBased) ↔ ∀ c ∈ cs, c.IsOneBased := by
  constructor
  · intro placed c member
    obtain ⟨d, member, depicts⟩ := exists_right_of_forall₂ depicted member
    exact depicts.isZeroBased_iff.1 (placed d member)
  · intro counted d member
    obtain ⟨c, member, depicts⟩ := exists_left_of_forall₂ depicted member
    exact depicts.isZeroBased_iff.2 (counted c member)

theorem Answer.eq_nil_of_error {fault : RunFault} {ds : List Diagnostic}
    (ended : Answer.outcome (.error fault) = .ok ds) : ds = [] := by
  cases fault <;> simp_all [Answer.outcome]

namespace Linter

/-- A report that a call gets to read: its command is run, and the output holds the report. -/
structure Receives (l : Linter) (fs : FileSystem) (r : LintRequest) (a : Answer)
    (report : Report) : Prop where
  run : (l.prepare fs r.document r.folders).IsRun
  held : ∃ c, a = .ok c ∧ Report.Holds c.output report

section

variable {l : Linter} {fs : FileSystem} {r : LintRequest} {a : Answer} {report : Report}

theorem Receives.unique {report' : Report} (receives : l.Receives fs r a report)
    (receives' : l.Receives fs r a report') : report = report' := by
  obtain ⟨-, c, rfl, holds⟩ := receives
  obtain ⟨-, c', same, holds'⟩ := receives'
  obtain rfl := Except.ok.inj same
  exact holds.unique holds'

theorem Receives.exists_diagnostics (receives : l.Receives fs r a report) :
    ∃ ds, l.callOutcome fs r a = .ok ds ∧ List.Forall₂ Depicts report.comments ds := by
  obtain ⟨⟨i, debug, ready⟩, c, rfl, holds⟩ := receives
  obtain ⟨ds, made, depicted⟩ := Report.exists_diagnostics_of_holds holds
  refine ⟨ds, ?_, depicted⟩
  simp only [callOutcome, ready, Answer.outcome, made]

/-- A call that gets no report to read has no diagnostics. -/
theorem eq_nil_of_not_receives {ds : List Diagnostic} (ended : l.callOutcome fs r a = .ok ds)
    (unreported : ∀ report, ¬ l.Receives fs r a report) : ds = [] := by
  unfold callOutcome at ended
  split at ended
  · exact (Except.ok.inj ended).symm
  · cases ended
  · rename_i i debug ready
    cases a with
    | error fault => exact Answer.eq_nil_of_error ended
    | ok c =>
        simp only [Answer.outcome] at ended
        cases made : Report.diagnosticsOfText c.output with
        | ok ds' =>
            obtain ⟨report, holds, -⟩ := (Report.diagnosticsOfText_eq_ok_iff _ _).1 made
            exact absurd ⟨⟨i, debug, ready⟩, c, rfl, holds⟩ (unreported report)
        | error fault =>
            simp only [made] at ended
            split at ended
            · cases ended
            · exact (Except.ok.inj ended).symm

end

end Linter

namespace Session

/-- All places that a call ends with count from zero exactly if those of the report that it gets to
read count from one. A report is not refused for its places: each of its comments has a diagnostic,
and one with a place below one has a place below zero. -/
theorem zero_based_iff_counted_from_one {s : Session} {call : Nat} (fresh : s.IsFresh call)
    (fs : FileSystem) (r : LintRequest) (others : List SessionStep)
    (foreign : ∀ step ∈ others, step.event.call ≠ call) (a : Answer) :
    let after := ((s.start fs call r).replay others).answer call a
    (∀ ds, after.outcome? call = some (.ok ds) →
      ((∀ d ∈ ds, d.IsZeroBased) ↔
        ∀ report, s.linter.Receives fs r a report → ∀ c ∈ report.comments, c.IsOneBased)) ∧
      ∀ report, s.linter.Receives fs r a report →
        ∃ ds, after.outcome? call = some (.ok ds) ∧
          List.Forall₂ (fun c d => Depicts c d ∧ (d.IsZeroBased ↔ c.IsOneBased))
            report.comments ds := by
  intro after
  have ends : after.outcome? call = some (s.linter.callOutcome fs r a) :=
    outcome?_of_call fresh fs r foreign a
  rw [ends]
  constructor
  · intro ds ended
    rw [Option.some.injEq] at ended
    by_cases received : ∃ report, s.linter.Receives fs r a report
    · obtain ⟨report, receives⟩ := received
      obtain ⟨ds', ended', depicted⟩ := receives.exists_diagnostics
      obtain rfl := Except.ok.inj (ended.symm.trans ended')
      rw [forall_isZeroBased_iff depicted]
      constructor
      · intro counted report' receives'
        rw [receives'.unique receives]
        exact counted
      · intro counted
        exact counted report receives
    · have unreported : ∀ report, ¬ s.linter.Receives fs r a report := not_exists.1 received
      rw [Linter.eq_nil_of_not_receives ended unreported]
      constructor
      · intro _ report receives
        exact absurd receives (unreported report)
      · intro _ d member
        cases member
  · intro report receives
    obtain ⟨ds, ended, depicted⟩ := receives.exists_diagnostics
    refine ⟨ds, congrArg some ended, ?_⟩
    exact depicted.imp fun c d depicts => ⟨depicts, depicts.isZeroBased_iff⟩

theorem line_zero_is_mapped_below_zero :
    let s := ofConfig { executable := some "shellcheck", cwd := some (Path.ofString "/srv") }
    let r : LintRequest := ⟨⟨"untitled:1", "#!/bin/sh\necho $a\n", "shellscript"⟩, []⟩
    let c : Completion := ⟨["shellcheck"], 1,
      "\x7b\"comments\": [\x7b\"file\": \"-\", \"line\": 0, \"endLine\": 2, \"column\": 6, " ++
        "\"endColumn\": 8, \"level\": \"info\", \"code\": 2086, \"message\": \"quote\", " ++
        "\"fix\": null\x7d]\x7d", ""⟩
    let after := ((s.start ⟨[], []⟩ 0 r).replay [⟨⟨[], []⟩, .started 7 r⟩]).answer 0 (.ok c)
    s.IsFresh 0 ∧ ∃ report d, s.linter.Receives ⟨[], []⟩ r (.ok c) report ∧
      after.outcome? 0 = some (.ok [d]) ∧ d.range.start = ⟨-1, 5⟩ ∧ ¬ d.IsZeroBased := by
  intro s r c after
  have fresh : s.IsFresh 0 := ⟨rfl, rfl⟩
  have reached : (s.linter.prepare ⟨[], []⟩ r.document r.folders).IsRun := by decide +kernel
  have starts : (Report.diagnosticsOfText c.output).toOption.map
      (List.map fun d => d.range.start) = some [⟨-1, 5⟩] := by decide +kernel
  cases made : Report.diagnosticsOfText c.output with
  | error fault => simp [made, Except.toOption] at starts
  | ok made' =>
      rw [made, Except.toOption, Option.map_some, Option.some.injEq] at starts
      obtain ⟨d', rfl, start⟩ := List.map_eq_singleton_iff.1 starts
      obtain ⟨report, holds, depicted'⟩ := (Report.diagnosticsOfText_eq_ok_iff _ _).1 made
      obtain ⟨comment, none, depicts', nothing, comments⟩ :=
        List.forall₂_cons_right_iff.1 depicted'
      obtain rfl := List.forall₂_nil_right_iff.1 nothing
      have receives : s.linter.Receives ⟨[], []⟩ r (.ok c) report := ⟨reached, c, rfl, holds⟩
      obtain ⟨ds, ended, mapped⟩ := (zero_based_iff_counted_from_one fresh ⟨[], []⟩ r
        [⟨⟨[], []⟩, .started 7 r⟩] (by simp [SessionEvent.call]) (.ok c)).2 report receives
      rw [comments] at mapped
      obtain ⟨d, none, ⟨depicts, -⟩, nothing, rfl⟩ := List.forall₂_cons_left_iff.1 mapped
      obtain rfl := List.forall₂_nil_left_iff.1 nothing
      have start_eq : d.range.start = ⟨-1, 5⟩ := by
        rw [depicts.start_eq, ← depicts'.start_eq, start]
      refine ⟨fresh, report, d, receives, ended, start_eq, fun placed => ?_⟩
      have line := placed.1.1
      rw [start_eq] at line
      exact absurd line (by decide)

end Session

end LintBridge
