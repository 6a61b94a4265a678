import LintBridge.Proofs.Report.Lines
import LintBridge.Proofs.Report.Rendering

/-!
# Which reports can be printed

An integer may have a limited number of digits when it is read and when it is written. Between the
two the places of a comment are moved from one-based to zero-based, and one of the integers that can
be read has no integer before it that can be written: the least (`isWritable_pred_eq_false_iff`). As
text the places count from one again, so that every report that was read and mapped is printed. As
JSON it is printed exactly if no place in it is the least integer (`printing_fails_on_least_place`).
-/
set_option autoImplicit false

namespace LintBridge

/-! ## The least integer -/

/-- The least of the integers that have few enough digits. -/
def leastInteger : Int := 1 - tenTo maxIntegerDigits

theorem tenTo_pos (exponent : Nat) : 0 < tenTo exponent := Nat.pow_pos (by decide)

theorem isWritable_eq_true_iff (n : Int) :
    isWritable n = true ↔ leastInteger ≤ n ∧ n ≤ -leastInteger := by
  rw [isWritable, decide_eq_true_iff, leastInteger]
  generalize tenTo maxIntegerDigits = bound
  omega

theorem isWritable_pred_eq_false_iff {n : Int} (short : isWritable n = true) :
    isWritable (n - 1) = false ↔ n = leastInteger := by
  have range := (isWritable_eq_true_iff n).1 short
  rw [← Bool.not_eq_true, isWritable_eq_true_iff]
  generalize leastInteger = least at range ⊢
  omega

theorem Comment.isExtreme_iff {c : Comment} (short : ∀ n ∈ c.places, isWritable n = true) :
    c.IsExtreme ↔ leastInteger ∈ c.places := by
  constructor
  · rintro ⟨n, member, long⟩
    rw [(isWritable_pred_eq_false_iff (short n member)).1 long] at member
    exact member
  · intro member
    exact ⟨leastInteger, member, (isWritable_pred_eq_false_iff (short _ member)).2 rfl⟩

theorem isWritable_leastInteger : isWritable leastInteger = true := by
  have positive := tenTo_pos maxIntegerDigits
  rw [isWritable_eq_true_iff, leastInteger]
  generalize tenTo maxIntegerDigits = bound at positive ⊢
  omega

/-! ## Comments that are accepted -/

/-- The report of a single comment without a replacement, as a value. -/
def Comment.toReportJson (c : Comment) : Json :=
  .obj [("comments", .arr [.obj [("file", .str c.file), ("line", .int c.line),
    ("endLine", .int c.endLine), ("column", .int c.column), ("endColumn", .int c.endColumn),
    ("level", .str c.level), ("code", .int c.code), ("message", .str c.message),
    ("fix", .null)]])]

theorem Comment.hasDistinctKeys_toReportJson (c : Comment) :
    Json.HasDistinctKeys c.toReportJson := by
  have outer : ["comments"].Nodup := by decide
  have inner : ["file", "line", "endLine", "column", "endColumn", "level", "code", "message",
      "fix"].Nodup := by decide
  refine .obj _ outer (List.forall_mem_singleton.2 (.arr _ (List.forall_mem_singleton.2 ?_)))
  refine .obj _ inner ?_
  simp only [List.forall_mem_cons]
  exact ⟨.str _, .int _, .int _, .int _, .int _, .str _, .int _, .str _, .null, by simp⟩

/-- Whatever else a comment says, it is accepted in some text if its level is known and its integers
have few enough digits. -/
theorem Report.exists_text_of_comment {c : Comment} (known : c.HasKnownLevel)
    (bare : c.fix = none) (short : ∀ n ∈ c.code :: c.places, isWritable n = true) :
    ∃ text, Report.Holds text ⟨[c]⟩ := by
  simp only [Comment.places, List.forall_mem_cons] at short
  obtain ⟨code, line, column, endLine, endColumn, -⟩ := short
  have free : Json.obstacle? c.toReportJson = none := by
    simp [Comment.toReportJson, Json.obstacle?, Json.itemsObstacle?, Json.entriesObstacle?, code,
      line, column, endLine, endColumn]
  cases written : Json.render c.toReportJson with
  | error e =>
      have told := (Json.write_tells c.toReportJson 0 e).1 written
      rw [free] at told
      cases told
  | ok text =>
      have parsed := Json.parse_written c.hasDistinctKeys_toReportJson written (.inl rfl)
      refine ⟨_, _, parsed, (Report.ofJson_eq_ok_iff _ _).2 ?_, List.forall_mem_singleton.2 known⟩
      refine ⟨_, _, rfl, rfl, .cons ⟨_, rfl, ?_⟩ .nil⟩
      exact ⟨rfl, rfl, rfl, rfl, rfl, rfl, rfl, rfl, by rw [bare]; rfl⟩

/-! ## Reports on files -/

/-- What the analyser has printed about a file. -/
structure FileOutput where
  path : Path
  uri : String
  text : String

namespace FileReport

/-- A report that says of a file what the analyser has printed about it. -/
structure IsMadeOf (o : FileOutput) (r : FileReport) : Prop where
  path_eq : r.path = o.path
  uri_eq : r.uri = o.uri
  mapped : Report.diagnosticsOfText o.text = .ok r.diagnostics

/-- The diagnostics of reports, each with the path that its line begins with. -/
def findings (reports : List FileReport) : List (Path × Diagnostic) :=
  reports.flatMap fun r => r.diagnostics.map fun d => (r.path, d)

/-- The lines of reports as text, unless a place that is told in them has too many digits. -/
def writeText (reports : List FileReport) : Except Json.WriteError String :=
  (List.mapM (fun finding => Diagnostic.writeLine finding.1 finding.2) (findings reports)).map
    fun lines => String.join (lines.map printed)

end FileReport

/-- A comment that is accepted in one of some outputs. -/
def IsAcceptedIn (outputs : List FileOutput) (c : Comment) : Prop :=
  ∃ o ∈ outputs, ∃ r, Report.Holds o.text r ∧ c ∈ r.comments

section

open FileReport

variable {outputs : List FileOutput} {reports : List FileReport}

theorem IsAcceptedIn.isWritable {c : Comment} (accepted : IsAcceptedIn outputs c) :
    ∀ n ∈ c.places, isWritable n = true := by
  obtain ⟨o, -, r, holds, member⟩ := accepted
  exact Report.isWritable_of_holds holds c member

/-- A diagnostic of the reports depicts a comment that was accepted. -/
theorem exists_accepted_of_mem (made : List.Forall₂ IsMadeOf outputs reports) {r : FileReport}
    (member : r ∈ reports) {d : Diagnostic} (listed : d ∈ r.diagnostics) :
    ∃ c, IsAcceptedIn outputs c ∧ Depicts c d := by
  obtain ⟨o, among, isMade⟩ := exists_left_of_forall₂ made member
  obtain ⟨report, holds, depicted⟩ := (Report.diagnosticsOfText_eq_ok_iff _ _).1 isMade.mapped
  obtain ⟨c, told, depicts⟩ := exists_left_of_forall₂ depicted listed
  exact ⟨c, ⟨o, among, report, holds, told⟩, depicts⟩

theorem exists_diagnostic_of_accepted (made : List.Forall₂ IsMadeOf outputs reports) {c : Comment}
    (accepted : IsAcceptedIn outputs c) : ∃ r ∈ reports, ∃ d ∈ r.diagnostics, Depicts c d := by
  obtain ⟨o, among, report, holds, told⟩ := accepted
  obtain ⟨r, member, isMade⟩ := exists_right_of_forall₂ made among
  obtain ⟨other, holds', depicted⟩ := (Report.diagnosticsOfText_eq_ok_iff _ _).1 isMade.mapped
  obtain rfl := holds.unique holds'
  obtain ⟨d, listed, depicts⟩ := exists_right_of_forall₂ depicted told
  exact ⟨r, member, d, listed, depicts⟩

/-! ## Text -/

/-- Each line of a report can be written: its places are those of an accepted comment. -/
theorem writeLine_of_isMadeOf (made : List.Forall₂ IsMadeOf outputs reports) {r : FileReport}
    (member : r ∈ reports) {d : Diagnostic} (listed : d ∈ r.diagnostics) :
    d.writeLine r.path = .ok (d.line r.path) := by
  obtain ⟨c, accepted, depicts⟩ := exists_accepted_of_mem made member listed
  rw [depicts.writeLine_eq r.path accepted.isWritable, depicts.line_eq]

theorem writeText_eq_render (made : List.Forall₂ IsMadeOf outputs reports) :
    writeText reports = render .text reports := by
  have lines : (findings reports).mapM (fun finding => finding.2.writeLine finding.1) =
      .ok ((findings reports).map fun finding => finding.2.line finding.1) := by
    rw [mapM_eq_ok_iff, List.forall₂_map_right_iff, List.forall₂_same]
    intro finding member
    obtain ⟨r, among, listed⟩ := List.mem_flatMap.1 member
    obtain ⟨d, told, rfl⟩ := List.mem_map.1 listed
    exact writeLine_of_isMadeOf made among told
  rw [writeText, lines, render, findings]
  simp only [Except.map, List.map_flatMap, List.map_map, Function.comp_def]

/-! ## JSON -/

/-- An integer of the reports has too many digits exactly if an accepted comment has the least
integer as a place. -/
theorem exists_long_integer_iff_least (made : List.Forall₂ IsMadeOf outputs reports) :
    (∃ n ∈ integers reports, isWritable n = false) ↔
      ∃ c, IsAcceptedIn outputs c ∧ leastInteger ∈ c.places := by
  rw [exists_long_integer_iff]
  constructor
  · rintro ⟨r, member, d, listed, long⟩
    obtain ⟨c, accepted, depicts⟩ := exists_accepted_of_mem made member listed
    have extreme := depicts.isExtreme_iff.1 long
    exact ⟨c, accepted, (Comment.isExtreme_iff accepted.isWritable).1 extreme⟩
  · rintro ⟨c, accepted, least⟩
    obtain ⟨r, member, d, listed, depicts⟩ := exists_diagnostic_of_accepted made accepted
    have extreme := (Comment.isExtreme_iff accepted.isWritable).2 least
    exact ⟨r, member, d, listed, depicts.isExtreme_iff.2 extreme⟩

theorem render_json_eq_error_iff (made : List.Forall₂ IsMadeOf outputs reports)
    (e : Json.WriteError) :
    render .json reports = .error e ↔
      e = .integerTooLong ∧ ∃ c, IsAcceptedIn outputs c ∧ leastInteger ∈ c.places := by
  rw [render_eq_error_iff, exists_long_integer_iff_least made]
  simp

end

end LintBridge
