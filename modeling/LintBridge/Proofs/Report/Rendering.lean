import LintBridge.FileReport
import LintBridge.Proofs.Json.Writing
import LintBridge.Proofs.Report.Diagnostics

/-!
# When findings can be printed

Findings can always be printed as text. As JSON they can be printed exactly if none of the integers
of their diagnostics has too many digits (`render_eq_error_iff`).
-/
set_option autoImplicit false

namespace LintBridge

/-- The integers of a diagnostic, other than the rank of its severity. -/
def Diagnostic.integers (d : Diagnostic) : List Int :=
  [d.range.start.line, d.range.start.character, d.range.stop.line, d.range.stop.character] ++
    d.tags.getD []

namespace Json

/-- What some integers tell when they are written. -/
def tooLong? (ns : List Int) : Option WriteError :=
  if ns.all isWritable then none else some .integerTooLong

theorem tooLong?_append (ns ms : List Int) :
    tooLong? (ns ++ ms) = (tooLong? ns).or (tooLong? ms) := by
  simp only [tooLong?, List.all_append]
  cases ns.all isWritable <;> cases ms.all isWritable <;> rfl

theorem tooLong?_eq_some_iff (ns : List Int) (e : WriteError) :
    tooLong? ns = some e ↔ e = .integerTooLong ∧ ∃ n ∈ ns, isWritable n = false := by
  unfold tooLong?
  by_cases all : ns.all isWritable = true
  · have none : ¬ ∃ n ∈ ns, isWritable n = false := by
      rintro ⟨n, member, long⟩
      rw [List.all_eq_true.1 all n member] at long
      cases long
    simp [all, none]
  · obtain ⟨n, member, long⟩ : ∃ n ∈ ns, isWritable n = false := by
      simpa [List.all_eq_true] using all
    rw [if_neg all, Option.some.injEq, eq_comm]
    exact (and_iff_left ⟨n, member, long⟩).symm

theorem obstacle?_int (n : Int) : obstacle? (.int n) = tooLong? [n] := by
  simp [obstacle?, tooLong?]

theorem itemsObstacle?_ints (ns : List Int) : itemsObstacle? (ns.map .int) = tooLong? ns := by
  induction ns with
  | nil => rfl
  | cons n more ih =>
      rw [List.map_cons, itemsObstacle?, ih, obstacle?_int, ← tooLong?_append,
        List.singleton_append]

end Json

theorem Severity.isWritable_rank (s : Severity) : isWritable s.rank = true := by
  cases s <;> decide +kernel

theorem Position.obstacle?_toJson (p : Position) :
    Json.obstacle? p.toJson = Json.tooLong? [p.line, p.character] := by
  rw [← List.singleton_append, Json.tooLong?_append]
  simp only [toJson, Json.obstacle?, Json.entriesObstacle?, ← Json.obstacle?_int, Option.or_none]

theorem Diagnostic.obstacle?_toJson (d : Diagnostic) :
    Json.obstacle? d.toJson = Json.tooLong? d.integers := by
  have range : Json.obstacle? d.range.toJson =
      Json.tooLong? [d.range.start.line, d.range.start.character, d.range.stop.line,
        d.range.stop.character] := by
    have split := Json.tooLong?_append [d.range.start.line, d.range.start.character]
      [d.range.stop.line, d.range.stop.character]
    simp only [List.cons_append, List.nil_append] at split
    simp only [Range.toJson, Json.obstacle?, Json.entriesObstacle?, Option.or_none,
      Position.obstacle?_toJson, split]
  rw [integers, Json.tooLong?_append, ← range]
  cases tags : d.tags with
  | none =>
      simp [toJson, tags, Json.obstacle?, Json.entriesObstacle?, d.severity.isWritable_rank,
        Json.tooLong?]
  | some ns =>
      simp [toJson, tags, Json.obstacle?, Json.entriesObstacle?, d.severity.isWritable_rank,
        Json.itemsObstacle?_ints]

/-! ## Diagnostics of comments -/

/-- A comment with a place of which the integer before it has too many digits. -/
def Comment.IsExtreme (c : Comment) : Prop :=
  ∃ n ∈ [c.line, c.column, c.endLine, c.endColumn], isWritable (n - 1) = false

theorem Depicts.isExtreme_iff {c : Comment} {d : Diagnostic} (depicts : Depicts c d) :
    (∃ n ∈ d.integers, isWritable n = false) ↔ c.IsExtreme := by
  rw [Diagnostic.integers, depicts.start_eq, depicts.stop_eq, depicts.tags_eq, Comment.IsExtreme]
  simp

/-! ## Reports on files -/

namespace FileReport

theorem obstacle?_toJson (r : FileReport) :
    Json.obstacle? r.toJson = Json.tooLong? (r.diagnostics.flatMap Diagnostic.integers) := by
  have items : ∀ ds : List Diagnostic, Json.itemsObstacle? (ds.map Diagnostic.toJson) =
      Json.tooLong? (ds.flatMap Diagnostic.integers) := by
    intro ds
    induction ds with
    | nil => rfl
    | cons d more ih =>
        rw [List.map_cons, Json.itemsObstacle?, ih, d.obstacle?_toJson, List.flatMap_cons,
          Json.tooLong?_append]
  simp [toJson, Json.obstacle?, Json.entriesObstacle?, items]

def integers (reports : List FileReport) : List Int :=
  reports.flatMap fun r => r.diagnostics.flatMap Diagnostic.integers

theorem exists_long_integer_iff (reports : List FileReport) :
    (∃ n ∈ integers reports, isWritable n = false) ↔
      ∃ r ∈ reports, ∃ d ∈ r.diagnostics, ∃ n ∈ d.integers, isWritable n = false := by
  simp only [integers, List.mem_flatMap]
  constructor
  · rintro ⟨n, ⟨r, member, d, among, listed⟩, long⟩
    exact ⟨r, member, d, among, n, listed, long⟩
  · rintro ⟨r, member, d, among, n, listed, long⟩
    exact ⟨n, ⟨r, member, d, among, listed⟩, long⟩

theorem itemsObstacle?_toJson (reports : List FileReport) :
    Json.itemsObstacle? (reports.map toJson) = Json.tooLong? (integers reports) := by
  induction reports with
  | nil => rfl
  | cons r more ih =>
      have split : integers (r :: more) =
          r.diagnostics.flatMap Diagnostic.integers ++ integers more := rfl
      rw [List.map_cons, Json.itemsObstacle?, ih, r.obstacle?_toJson, split, Json.tooLong?_append]

/-- Printing fails exactly on integers with too many digits, and as JSON only. -/
theorem render_eq_error_iff (format : OutputFormat) (reports : List FileReport)
    (e : Json.WriteError) :
    render format reports = .error e ↔
      e = .integerTooLong ∧ format = .json ∧ ∃ n ∈ integers reports, isWritable n = false := by
  cases format with
  | text => simp [render]
  | json =>
      have told := Json.write_tells (.arr (reports.map toJson)) 0 e
      rw [Json.obstacle?, itemsObstacle?_toJson, Json.tooLong?_eq_some_iff] at told
      have mapped : render .json reports = .error e ↔
          Json.write 0 (.arr (reports.map toJson)) = .error e := by
        rw [render, Json.render]
        cases Json.write 0 (.arr (reports.map toJson)) <;> simp [Except.map]
      rw [mapped, told]
      simp

end FileReport

end LintBridge
