import LintBridge.Report.Output
import Mathlib.Data.List.Forall2

/-!
# The diagnostics of a report

`Depicts` says what the diagnostic for a comment is, field by field, and `Holds` what it is for a
text to hold a report that has diagnostics. The text of a report yields one diagnostic for each
comment, in order, and any other text yields none at all (`diagnosticsOfText_eq_ok_iff`).
-/
set_option autoImplicit false

namespace LintBridge

/-- The levels of comments and the ranks of their severities. -/
def levelRanks : List (String × Nat) := [("error", 1), ("warning", 2), ("info", 3), ("style", 4)]

/-- Whether a comment has a level that a severity belongs to. -/
def Comment.HasKnownLevel (c : Comment) : Prop := c.level ∈ levelRanks.map Prod.fst

/-- A diagnostic that says what a comment says, with places counted from zero. -/
structure Depicts (c : Comment) (d : Diagnostic) : Prop where
  start_eq : d.range.start = ⟨c.line - 1, c.column - 1⟩
  stop_eq : d.range.stop = ⟨c.endLine - 1, c.endColumn - 1⟩
  severity_mem : (c.level, d.severity.rank) ∈ levelRanks
  code_eq : d.code = "SC" ++ toString c.code
  href_eq : d.href = "https://www.shellcheck.net/wiki/" ++ d.code
  message_eq : d.message = c.message
  source_eq : d.source = "shellcheck"
  tags_eq : d.tags = none

/-- A text that holds a report, all levels of which are known. -/
def Report.Holds (text : String) (r : Report) : Prop :=
  ∃ value, Json.parse text = .ok value ∧ Report.ofJson value = .ok r ∧
    ∀ c ∈ r.comments, c.HasKnownLevel

/-- A text with an integer that has too many digits to be read. -/
def Json.HasLongInteger (text : String) : Prop :=
  ∃ error, Json.parse text = .error error ∧ error.isLimit = true

instance (text : String) : Decidable (Json.HasLongInteger text) :=
  match parsed : Json.parse text with
  | .ok _ => .isFalse (by rintro ⟨error, failed, -⟩; rw [parsed] at failed; cases failed)
  | .error e =>
    if limit : e.isLimit = true then .isTrue ⟨e, parsed, limit⟩
    else
      .isFalse (by
        rintro ⟨error, failed, limit'⟩
        rw [parsed] at failed
        cases failed
        exact limit limit')

/-! ## Levels -/

theorem Severity.ofLevel?_eq_some_iff (level : String) (s : Severity) :
    ofLevel? level = some s ↔ (level, s.rank) ∈ levelRanks := by
  constructor
  · intro found
    simp only [ofLevel?] at found
    split at found <;> simp only [Option.some.injEq, reduceCtorEq] at found <;> subst found <;>
      simp [levelRanks, rank]
  · intro listed
    cases s <;> simp [levelRanks, rank] at listed <;> subst listed <;> rfl

theorem Comment.hasKnownLevel_iff (c : Comment) :
    c.HasKnownLevel ↔ ∃ s, Severity.ofLevel? c.level = some s := by
  simp only [Severity.ofLevel?_eq_some_iff, HasKnownLevel]
  constructor
  · intro known
    simp only [levelRanks, List.map_cons, List.map_nil, List.mem_cons, List.not_mem_nil,
      or_false] at known
    rcases known with level | level | level | level <;> rw [level]
    · exact ⟨.error, by decide⟩
    · exact ⟨.warning, by decide⟩
    · exact ⟨.information, by decide⟩
    · exact ⟨.hint, by decide⟩
  · rintro ⟨s, listed⟩
    exact List.mem_map_of_mem listed

/-! ## Comments -/

theorem Comment.toDiagnostic_eq_ok_iff (c : Comment) (d : Diagnostic) :
    c.toDiagnostic = .ok d ↔ Depicts c d := by
  simp only [toDiagnostic, Severity.ofLevel]
  constructor
  · intro mapped
    cases found : Severity.ofLevel? c.level with
    | none => simp [found, Except.map] at mapped
    | some s =>
        simp only [found, Except.map, Except.ok.injEq] at mapped
        subst mapped
        exact ⟨rfl, rfl, (Severity.ofLevel?_eq_some_iff _ _).1 found, rfl, rfl, rfl, rfl, rfl⟩
  · intro depicts
    have found := (Severity.ofLevel?_eq_some_iff _ _).2 depicts.severity_mem
    obtain ⟨⟨start, stop⟩, severity, code, href, message, source, tags⟩ := d
    obtain ⟨start_eq, stop_eq, -, code_eq, href_eq, message_eq, source_eq, tags_eq⟩ := depicts
    simp only at found start_eq stop_eq code_eq href_eq message_eq source_eq tags_eq
    subst start_eq stop_eq href_eq code_eq message_eq source_eq tags_eq
    rw [found]
    rfl

theorem Comment.exists_toDiagnostic_iff (c : Comment) :
    (∃ d, c.toDiagnostic = .ok d) ↔ c.HasKnownLevel := by
  rw [c.hasKnownLevel_iff]
  simp only [toDiagnostic, Severity.ofLevel]
  cases Severity.ofLevel? c.level with
  | none => simp [Except.map]
  | some s => simp [Except.map]

/-! ## Reports -/

theorem mapM_eq_ok_iff {ε α β : Type} (f : α → Except ε β) (xs : List α) (ys : List β) :
    xs.mapM f = .ok ys ↔ List.Forall₂ (fun x y => f x = .ok y) xs ys := by
  induction xs generalizing ys with
  | nil =>
      rw [List.forall₂_nil_left_iff, List.mapM_nil]
      exact ⟨fun same => (Except.ok.inj same).symm, fun empty => by rw [empty]; rfl⟩
  | cons x xs ih =>
      rw [List.forall₂_cons_left_iff, List.mapM_cons]
      constructor
      · intro mapped
        cases first : f x with
        | error e => simp [first, bind, Except.bind] at mapped
        | ok y =>
            cases others : xs.mapM f with
            | error e => simp [first, others, bind, Except.bind] at mapped
            | ok zs =>
                simp only [first, others, bind, Except.bind] at mapped
                exact ⟨y, zs, rfl, (ih zs).1 others, (Except.ok.inj mapped).symm⟩
      · rintro ⟨y, zs, first, others, rfl⟩
        rw [first, (ih zs).2 others]
        rfl

theorem Report.toDiagnostics_eq_ok_iff (r : Report) (ds : List Diagnostic) :
    r.toDiagnostics = .ok ds ↔ List.Forall₂ Depicts r.comments ds := by
  simp only [toDiagnostics, mapM_eq_ok_iff, Comment.toDiagnostic_eq_ok_iff]

theorem exists_forall₂_of_forall {α β : Type} {R : α → β → Prop} {xs : List α}
    (each : ∀ x ∈ xs, ∃ y, R x y) : ∃ ys, List.Forall₂ R xs ys := by
  induction xs with
  | nil => exact ⟨[], .nil⟩
  | cons x xs ih =>
      obtain ⟨y, first⟩ := each x (List.mem_cons_self ..)
      obtain ⟨ys, others⟩ := ih fun z member => each z (List.mem_cons_of_mem _ member)
      exact ⟨y :: ys, .cons first others⟩

theorem exists_right_of_forall₂ {α β : Type} {R : α → β → Prop} {xs : List α} {ys : List β}
    (paired : List.Forall₂ R xs ys) {x : α} (member : x ∈ xs) : ∃ y ∈ ys, R x y := by
  induction paired with
  | nil => cases member
  | cons first others ih =>
      rcases List.mem_cons.1 member with rfl | member
      · exact ⟨_, List.mem_cons_self .., first⟩
      · obtain ⟨y, member, related⟩ := ih member
        exact ⟨y, List.mem_cons_of_mem _ member, related⟩

theorem exists_left_of_forall₂ {α β : Type} {R : α → β → Prop} {xs : List α} {ys : List β}
    (paired : List.Forall₂ R xs ys) {y : β} (member : y ∈ ys) : ∃ x ∈ xs, R x y :=
  exists_right_of_forall₂ (R := flip R) (List.Forall₂.flip paired) member

/-- A report has diagnostics exactly if every level in it is known. -/
theorem Report.exists_depicted_iff (r : Report) :
    (∃ ds, List.Forall₂ Depicts r.comments ds) ↔ ∀ c ∈ r.comments, c.HasKnownLevel := by
  constructor
  · rintro ⟨ds, depicted⟩ c member
    obtain ⟨d, -, paired⟩ := exists_right_of_forall₂ depicted member
    exact List.mem_map_of_mem paired.severity_mem
  · intro known
    apply exists_forall₂_of_forall
    intro c member
    obtain ⟨d, mapped⟩ := c.exists_toDiagnostic_iff.2 (known c member)
    exact ⟨d, (c.toDiagnostic_eq_ok_iff d).1 mapped⟩

/-! ## Texts -/

namespace Report

theorem ofText_eq_ok_iff (text : String) (r : Report) :
    ofText text = .ok r ↔ ∃ value, Json.parse text = .ok value ∧ Report.ofJson value = .ok r := by
  simp only [ofText]
  cases Json.parse text with
  | error e => simp
  | ok value => cases read : Report.ofJson value <;> simp [read]

/-- A text yields diagnostics exactly if it holds a report, and then they depict its comments. -/
theorem diagnosticsOfText_eq_ok_iff (text : String) (ds : List Diagnostic) :
    diagnosticsOfText text = .ok ds ↔
      ∃ r, Holds text r ∧ List.Forall₂ Depicts r.comments ds := by
  constructor
  · intro mapped
    simp only [diagnosticsOfText] at mapped
    cases read : ofText text with
    | error fault => simp [read] at mapped
    | ok r =>
        cases made : r.toDiagnostics with
        | error e => simp [read, made] at mapped
        | ok made' =>
            simp only [read, made, Except.ok.injEq] at mapped
            subst mapped
            have depicted := (r.toDiagnostics_eq_ok_iff made').1 made
            obtain ⟨value, parsed, checked⟩ := (ofText_eq_ok_iff text r).1 read
            exact ⟨r, ⟨value, parsed, checked, r.exists_depicted_iff.1 ⟨made', depicted⟩⟩,
              depicted⟩
  · rintro ⟨r, ⟨value, parsed, checked, known⟩, depicted⟩
    have read := (ofText_eq_ok_iff text r).2 ⟨value, parsed, checked⟩
    simp only [diagnosticsOfText, read, (r.toDiagnostics_eq_ok_iff ds).2 depicted]

theorem exists_diagnostics_of_holds {text : String} {r : Report} (holds : Holds text r) :
    ∃ ds, diagnosticsOfText text = .ok ds ∧ List.Forall₂ Depicts r.comments ds := by
  obtain ⟨value, parsed, checked, known⟩ := holds
  obtain ⟨ds, depicted⟩ := r.exists_depicted_iff.2 known
  exact ⟨ds, (diagnosticsOfText_eq_ok_iff text ds).2
    ⟨r, ⟨value, parsed, checked, known⟩, depicted⟩, depicted⟩

theorem not_holds_of_error {text : String} {fault : OutputFault}
    (failed : diagnosticsOfText text = .error fault) : ¬ ∃ r, Holds text r := by
  rintro ⟨r, holds⟩
  obtain ⟨ds, made, -⟩ := exists_diagnostics_of_holds holds
  rw [failed] at made
  cases made

instance (text : String) : Decidable (∃ r, Holds text r) :=
  match made : diagnosticsOfText text with
  | .ok ds =>
    .isTrue (by
      obtain ⟨r, holds, -⟩ := (diagnosticsOfText_eq_ok_iff text ds).1 made
      exact ⟨r, holds⟩)
  | .error _ => .isFalse (not_holds_of_error made)

/-- A text holds at most one report. -/
theorem Holds.unique {text : String} {r r' : Report} (holds : Holds text r)
    (holds' : Holds text r') : r = r' := by
  obtain ⟨value, parsed, checked, -⟩ := holds
  obtain ⟨value', parsed', checked', -⟩ := holds'
  obtain rfl := Except.ok.inj (parsed.symm.trans parsed')
  exact Except.ok.inj (checked.symm.trans checked')

theorem Holds.not_hasLongInteger {text : String} {r : Report} (holds : Holds text r) :
    ¬ Json.HasLongInteger text := by
  obtain ⟨value, parsed, -, -⟩ := holds
  rintro ⟨error, failed, -⟩
  rw [parsed] at failed
  cases failed

/-- The fault of a text is a limit exactly if the text has a long integer. -/
theorem isLimit_iff_hasLongInteger {text : String} {fault : OutputFault}
    (failed : diagnosticsOfText text = .error fault) :
    fault.isLimit = true ↔ Json.HasLongInteger text := by
  simp only [diagnosticsOfText, ofText] at failed
  unfold Json.HasLongInteger
  cases parsed : Json.parse text with
  | error e =>
      simp only [parsed, Except.error.injEq] at failed
      subst failed
      simp [OutputFault.isLimit]
  | ok value =>
      simp only [parsed] at failed
      cases checked : Report.ofJson value with
      | error vs =>
          simp only [checked, Except.error.injEq] at failed
          subst failed
          simp [OutputFault.isLimit]
      | ok r =>
          simp only [checked] at failed
          cases made : r.toDiagnostics with
          | error e =>
              simp only [made, Except.error.injEq] at failed
              subst failed
              simp [OutputFault.isLimit]
          | ok ds => simp [made] at failed

end Report

end LintBridge
