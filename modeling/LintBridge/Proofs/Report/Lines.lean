import LintBridge.Proofs.Json.Integers
import LintBridge.Proofs.Json.Layout
import LintBridge.Proofs.Report.Recovery
import LintBridge.Proofs.Report.Validation
import LintBridge.Proofs.Text.Runs

/-!
# Findings as lines of text

A comment is told by one line: the path, the line and the column as the analyser counts them, the
label of its level, its code and its message (`Comment.lineAt`). From the line these can be told
apart again, whatever the message is (`Comment.lineAt_inj`), and the text that is printed of a
report is one such line for each comment (`one_line_for_each_comment`).
-/
set_option autoImplicit false

namespace LintBridge

open Text (Stops)

/-- The levels of comments and their labels. -/
def levelLabels : List (String × String) :=
  [("error", "error"), ("warning", "warning"), ("info", "info"), ("style", "hint")]

/-- A text that stays on one line and is printed as it is. -/
def IsPlain (text : String) : Prop := '\n' ∉ text.toList ∧ '\x1b' ∉ text.toList

instance (text : String) : Decidable (IsPlain text) :=
  inferInstanceAs (Decidable ('\n' ∉ text.toList ∧ '\x1b' ∉ text.toList))

namespace Comment

def label (c : Comment) : String := (levelLabels.lookup c.level).getD ""

/-- The integers that tell where a comment is. -/
def places (c : Comment) : List Int := [c.line, c.column, c.endLine, c.endColumn]

theorem line_mem_places (c : Comment) : c.line ∈ c.places := by simp [places]

theorem column_mem_places (c : Comment) : c.column ∈ c.places := by simp [places]

/-- The line that tells a comment on the file at a path. -/
def lineAt (p : Path) (c : Comment) : String :=
  s!"{p}:{c.line}:{c.column}: {c.label} [SC{c.code}] {c.message}"

/-- Two comments of which the same is told. -/
structure AgreesWith (c c' : Comment) : Prop where
  line_eq : c.line = c'.line
  column_eq : c.column = c'.column
  level_eq : c.level = c'.level
  code_eq : c.code = c'.code
  message_eq : c.message = c'.message

end Comment

/-! ## Labels and numerals -/

theorem Comment.label_mem {c : Comment} (known : c.HasKnownLevel) :
    (c.level, c.label) ∈ levelLabels := by
  have listed : ∀ level ∈ levelRanks.map Prod.fst,
      (level, (levelLabels.lookup level).getD "") ∈ levelLabels := by decide
  exact listed c.level known

theorem Depicts.label_eq {c : Comment} {d : Diagnostic} (depicts : Depicts c d) :
    d.severity.label = c.label := by
  have same : ∀ s ∈ Severity.all, ∀ entry ∈ levelRanks, entry.2 = s.rank →
      s.label = (levelLabels.lookup entry.1).getD "" := by decide
  have every : d.severity ∈ Severity.all := by cases d.severity <;> decide
  exact same d.severity every _ depicts.severity_mem rfl

def isNumeralChar (c : Char) : Bool := c.isDigit || c == '-'

theorem isNumeralChar_of_mem {n : Int} {c : Char} (member : c ∈ (toString n).toList) :
    isNumeralChar c = true := by
  rw [Json.toList_toString, List.mem_append] at member
  rcases member with sign | digit
  · split at sign
    · obtain rfl := List.mem_singleton.1 sign
      rfl
    · cases sign
  · rw [isNumeralChar, Json.all_isDigit_toDigits _ c digit, Bool.true_or]

theorem toString_int_inj {m n : Int} (same : (toString m).toList = (toString n).toList) :
    m = n := by
  have text : toString m = toString n := String.toList_inj.1 same
  rw [Int.toString_eq_repr, Int.toString_eq_repr] at text
  have value := congrArg String.toInt? text
  rw [Int.toInt?_repr, Int.toInt?_repr] at value
  exact Option.some.inj value

theorem isPlain_toString (n : Int) : IsPlain (toString n) := by
  have apart {c : Char} (other : isNumeralChar c = false) : c ∉ (toString n).toList := by
    intro member
    rw [isNumeralChar_of_mem member] at other
    cases other
  exact ⟨apart (by decide), apart (by decide)⟩

/-! ## Lines -/

namespace Comment

theorem toList_lineAt (p : Path) (c : Comment) :
    (c.lineAt p).toList = p.toString.toList ++ ':' :: ((toString c.line).toList ++
      ':' :: ((toString c.column).toList ++ ':' :: ' ' :: (c.label.toList ++
        ' ' :: '[' :: 'S' :: 'C' :: ((toString c.code).toList ++
          ']' :: ' ' :: c.message.toList)))) := by
  have parts : c.lineAt p = p.toString ++ ":" ++ toString c.line ++ ":" ++ toString c.column ++
      ": " ++ c.label ++ " [SC" ++ toString c.code ++ "] " ++ c.message := rfl
  have colon : ":".toList = [':'] := by decide
  have behindPlace : ": ".toList = [':', ' '] := by decide
  have beforeCode : " [SC".toList = [' ', '[', 'S', 'C'] := by decide
  have behindCode : "] ".toList = [']', ' '] := by decide
  simp only [parts, String.toList_append, colon, behindPlace, beforeCode, behindCode,
    List.append_assoc, List.cons_append, List.nil_append]

/-- The parts of a line end where it says so: a numeral in front of a colon or a bracket, a label in
front of a blank. -/
theorem lineAt_inj {p : Path} {c c' : Comment} (known : c.HasKnownLevel)
    (known' : c'.HasKnownLevel) (same : c.lineAt p = c'.lineAt p) : c.AgreesWith c' := by
  have text := congrArg String.toList same
  rw [toList_lineAt, toList_lineAt] at text
  have numeral {m n : Int} {x : Char} {rest rest' : List Char} (ends : isNumeralChar x = false)
      (equal : (toString m).toList ++ x :: rest = (toString n).toList ++ x :: rest') :
      m = n ∧ rest = rest' := by
    obtain ⟨digits, behind⟩ := Text.run_unique equal (fun _ => isNumeralChar_of_mem)
      (Text.stops_cons ends) (fun _ => isNumeralChar_of_mem) (Text.stops_cons ends)
    exact ⟨toString_int_inj digits, (List.cons.inj behind).2⟩
  have word {d : Comment} (known : d.HasKnownLevel) : ∀ x ∈ d.label.toList, (x != ' ') = true := by
    have solid : ∀ entry ∈ levelLabels, entry.2.toList.all (· != ' ') = true := by decide
    exact List.all_eq_true.1 (solid _ (label_mem known))
  obtain ⟨line_eq, text⟩ := numeral (by decide) (List.cons.inj (List.append_cancel_left text)).2
  obtain ⟨column_eq, text⟩ := numeral (by decide) text
  obtain ⟨label_eq, text⟩ := Text.run_unique (List.cons.inj text).2 (word known)
    (Text.stops_cons (by decide)) (word known') (Text.stops_cons (by decide))
  simp only [List.cons.injEq, true_and] at text
  obtain ⟨code_eq, text⟩ := numeral (by decide) text
  refine ⟨line_eq, column_eq, ?_, code_eq, String.toList_inj.1 (List.cons.inj text).2⟩
  have distinct : ∀ entry ∈ levelLabels, ∀ other ∈ levelLabels, entry.2 = other.2 →
      entry.1 = other.1 := by decide
  exact distinct _ (label_mem known) _ (label_mem known') (String.toList_inj.1 label_eq)

theorem isPlain_lineAt {p : Path} {c : Comment} (path : IsPlain p.toString)
    (known : c.HasKnownLevel) (message : IsPlain c.message) : IsPlain (c.lineAt p) := by
  have labels : ∀ entry ∈ levelLabels, IsPlain entry.2 := by decide
  have label := labels _ (label_mem known)
  have line := isPlain_toString c.line
  have column := isPlain_toString c.column
  have code := isPlain_toString c.code
  rw [IsPlain, toList_lineAt]
  simp only [List.mem_append, List.mem_cons]
  constructor
  · simp only [path.1, line.1, column.1, label.1, code.1, message.1, false_or, or_false]
    decide
  · simp only [path.2, line.2, column.2, label.2, code.2, message.2, false_or, or_false]
    decide

end Comment

/-- A diagnostic is told as the comment that it depicts. -/
theorem Depicts.line_eq {c : Comment} {d : Diagnostic} (depicts : Depicts c d) (p : Path) :
    d.line p = c.lineAt p := by
  have line : d.range.start.line + 1 = c.line := by
    rw [depicts.start_eq]
    exact Int.sub_add_cancel c.line 1
  have column : d.range.start.character + 1 = c.column := by
    rw [depicts.start_eq]
    exact Int.sub_add_cancel c.column 1
  have parts : d.line p = p.toString ++ ":" ++ toString (d.range.start.line + 1) ++ ":" ++
      toString (d.range.start.character + 1) ++ ": " ++ d.severity.label ++ " [" ++ d.code ++
        "] " ++ d.message := rfl
  have code (front : String) : front ++ " [" ++ ("SC" ++ toString c.code) =
      front ++ " [SC" ++ toString c.code := by
    apply String.toList_inj.1
    simp
  rw [parts, line, column, depicts.label_eq, depicts.code_eq, depicts.message_eq, code]
  rfl

/-- A comment the places of which have few enough digits is depicted by a diagnostic the line of
which can be written: there the places count from one again. -/
theorem Depicts.writeLine_eq {c : Comment} {d : Diagnostic} (depicts : Depicts c d) (p : Path)
    (short : ∀ n ∈ c.places, isWritable n = true) : d.writeLine p = .ok (c.lineAt p) := by
  rw [Diagnostic.writeLine, depicts.line_eq p, depicts.start_eq, Int.sub_add_cancel,
    Int.sub_add_cancel, short c.line c.line_mem_places, short c.column c.column_mem_places]
  rfl

/-! ## What is printed of a report -/

theorem printed_of_isPlain {text : String} (plain : IsPlain text) :
    printed text = text ++ "\n" := by
  rw [printed, stripControlSequences_eq_self plain.2, String.ofList_toList]

/-- Lines that are written one behind the other can be told apart at the line feeds. -/
theorem splitOn_join {lines : List String} (plain : ∀ line ∈ lines, '\n' ∉ line.toList) :
    (String.join (lines.map (· ++ "\n"))).toList.splitOn '\n' =
      lines.map String.toList ++ [[]] := by
  induction lines with
  | nil => rfl
  | cons line more ih =>
      rw [List.forall_mem_cons] at plain
      have feed : "\n".toList = ['\n'] := by decide
      have solid : ∀ c ∈ line.toList, (c == '\n') = false := by
        intro c member
        rw [beq_eq_false_iff_ne]
        rintro rfl
        exact plain.1 member
      rw [List.map_cons, String.join_cons, String.toList_append, String.toList_append, feed,
        List.append_assoc, List.singleton_append, List.splitOn,
        List.splitOnP_append_cons_of_forall_mem solid _ (by decide), ← List.splitOn, ih plain.2]
      rfl

/-- The comments of a report that was read have places that can be written. -/
theorem Report.isWritable_of_holds {text : String} {r : Report} (holds : Holds text r) :
    ∀ c ∈ r.comments, ∀ n ∈ c.places, isWritable n = true := by
  obtain ⟨value, parsed, read, -⟩ := holds
  obtain ⟨entries, items, rfl, listed, paired⟩ := (ofJson_eq_ok_iff value r).1 read
  intro c member
  obtain ⟨item, among, fields, rfl, isIn⟩ := exists_left_of_forall₂ paired member
  have object := (Json.hasShortIntegers_of_parse parsed).of_lookup listed
  have item := object.of_mem among
  have integer {key : String} {n : Int} (found : fields.lookup key = some (.int n)) :
      isWritable n = true := (item.of_lookup found).isWritable
  have either {key other : String} {n : Int}
      (found : (fields.lookup key).or (fields.lookup other) = some (.int n)) :
      isWritable n = true := by
    rcases Option.or_eq_some_iff.1 found with first | ⟨-, second⟩
    · exact integer first
    · exact integer second
  simp only [Comment.places, List.forall_mem_cons]
  exact ⟨integer isIn.line, integer isIn.column, either isIn.endLine, either isIn.endColumn,
    List.forall_mem_nil _⟩

end LintBridge
