import LintBridge.Proofs.Json.RoundTrip
import LintBridge.Proofs.Report.ControlSequences
import LintBridge.Proofs.Report.Diagnostics
import LintBridge.Proofs.Report.Rendering
import Mathlib

/-!
# What can be read from printed reports

Reports that were printed as JSON read as one object for each of them, in order. From each
diagnostic in it the comment that it was made from can be told: its places, its level, its code and
its message (`comments_recovered`). The values that are printed have distinct keys, and their text
has no control sequences that printing would take away.
-/
set_option autoImplicit false

namespace LintBridge

/-! ## A finding in a diagnostic -/

def Json.int? : Json → Option Int
  | .int n => some n
  | _ => none

def Json.str? : Json → Option String
  | .str s => some s
  | _ => none

/-- What of a comment is told by its diagnostic. -/
structure Finding where
  line : Int
  column : Int
  endLine : Int
  endColumn : Int
  level : String
  code : Int
  message : String
  deriving DecidableEq, Repr

def Comment.finding (c : Comment) : Finding :=
  ⟨c.line, c.column, c.endLine, c.endColumn, c.level, c.code, c.message⟩

namespace Finding

/-- The level that has a rank. -/
def levelOf? (rank : Int) : Option String :=
  (levelRanks.find? fun entry => (entry.2 : Int) == rank).map Prod.fst

/-- The number that is named by a code, behind two letters. -/
def codeOf? (name : String) : Option Int :=
  match name.toList with
  | 'S' :: 'C' :: digits => (String.ofList digits).toInt?
  | _ => none

/-- The line and the column, both from one, of an end of a range. -/
def place? (diagnostic : Json) (key : String) : Option (Int × Int) := do
  let position ← (← diagnostic.get? "range").get? key
  let line ← (← position.get? "line").int?
  let character ← (← position.get? "character").int?
  some (line + 1, character + 1)

def ofJson? (diagnostic : Json) : Option Finding := do
  let (line, column) ← place? diagnostic "start"
  let (endLine, endColumn) ← place? diagnostic "end"
  let level ← levelOf? (← (← diagnostic.get? "severity").int?)
  let code ← codeOf? (← (← diagnostic.get? "code").str?)
  let message ← (← diagnostic.get? "message").str?
  some ⟨line, column, endLine, endColumn, level, code, message⟩

theorem levelOf?_of_mem {level : String} {rank : Nat} (listed : (level, rank) ∈ levelRanks) :
    levelOf? rank = some level := by
  simp only [levelRanks, List.mem_cons, List.not_mem_nil, or_false, Prod.mk.injEq] at listed
  rcases listed with ⟨rfl, rfl⟩ | ⟨rfl, rfl⟩ | ⟨rfl, rfl⟩ | ⟨rfl, rfl⟩ <;> rfl

theorem codeOf?_codeName (code : Int) : codeOf? ("SC" ++ toString code) = some code := by
  have letters : "SC".toList = ['S', 'C'] := by decide
  rw [codeOf?, String.toList_append, letters]
  simp only [List.cons_append, List.nil_append, String.ofList_toList]
  rw [Int.toString_eq_repr, Int.toInt?_repr]

/-- The comment that a diagnostic depicts can be told from its JSON. -/
theorem ofJson?_toJson {c : Comment} {d : Diagnostic} (depicts : Depicts c d) :
    ofJson? d.toJson = some c.finding := by
  have start : place? d.toJson "start" = some (c.line, c.column) := by
    have read : place? d.toJson "start" =
        some (d.range.start.line + 1, d.range.start.character + 1) := rfl
    rw [read, depicts.start_eq]
    simp
  have stop : place? d.toJson "end" = some (c.endLine, c.endColumn) := by
    have read : place? d.toJson "end" =
        some (d.range.stop.line + 1, d.range.stop.character + 1) := rfl
    rw [read, depicts.stop_eq]
    simp
  have level := levelOf?_of_mem depicts.severity_mem
  have code : codeOf? d.code = some c.code := by
    rw [depicts.code_eq, codeOf?_codeName]
  have fields : ofJson? d.toJson = (do
      let (line, column) ← place? d.toJson "start"
      let (endLine, endColumn) ← place? d.toJson "end"
      let level ← levelOf? d.severity.rank
      let code ← codeOf? d.code
      some ⟨line, column, endLine, endColumn, level, code, d.message⟩) := rfl
  rw [fields, start, stop, level, code, depicts.message_eq]
  rfl

end Finding

/-! ## What is printed -/

/-- Nothing is taken away from a written value when it is printed. -/
theorem printed_of_render {value : Json} {text : String} (written : Json.render value = .ok text) :
    printed text = text ++ "\n" := by
  have plain : '\x1b' ∉ text.toList := by
    intro member
    have escape : Json.isWritten '\x1b' = false := by decide
    rw [Json.isWritten_of_write value written _ member] at escape
    cases escape
  rw [printed, stripControlSequences_eq_self plain, String.ofList_toList]

namespace Json.HasDistinctKeys

theorem position (p : Position) : HasDistinctKeys p.toJson := by
  have distinct : ["line", "character"].Nodup := by decide
  refine .obj _ distinct ?_
  simp only [List.forall_mem_cons]
  exact ⟨.int _, .int _, by simp⟩

theorem range (r : Range) : HasDistinctKeys r.toJson := by
  have distinct : ["start", "end"].Nodup := by decide
  refine .obj _ distinct ?_
  simp only [List.forall_mem_cons]
  exact ⟨position r.start, position r.stop, by simp⟩

theorem description (href : String) : HasDistinctKeys (.obj [("href", .str href)]) := by
  have distinct : ["href"].Nodup := by decide
  refine .obj _ distinct ?_
  simp only [List.forall_mem_cons]
  exact ⟨.str _, by simp⟩

theorem diagnostic (d : Diagnostic) : HasDistinctKeys d.toJson := by
  obtain ⟨r, severity, code, href, message, source, tags⟩ := d
  cases tags with
  | none =>
      have distinct : ["range", "severity", "code", "codeDescription", "message", "source"].Nodup :=
        by decide
      refine .obj _ distinct ?_
      simp only [List.cons_append, List.nil_append, List.forall_mem_cons]
      exact ⟨range r, .int _, .str _, description href, .str _, .str _, by simp⟩
  | some tags =>
      have distinct :
          ["range", "severity", "code", "codeDescription", "message", "source", "tags"].Nodup := by
        decide
      refine .obj _ distinct ?_
      simp only [List.cons_append, List.nil_append, List.forall_mem_cons]
      refine ⟨range r, .int _, .str _, description href, .str _, .str _, .arr _ ?_, by simp⟩
      intro item member
      obtain ⟨n, -, rfl⟩ := List.mem_map.1 member
      exact .int n

theorem fileReport (r : FileReport) : HasDistinctKeys r.toJson := by
  have distinct : ["uri", "diagnostics"].Nodup := by decide
  refine .obj _ distinct ?_
  simp only [List.forall_mem_cons]
  refine ⟨.str _, .arr _ ?_, by simp⟩
  intro item member
  obtain ⟨d, -, rfl⟩ := List.mem_map.1 member
  exact diagnostic d

end Json.HasDistinctKeys

namespace FileReport

/-- What is printed of reports as JSON reads as the array of them. -/
theorem parse_of_render {reports : List FileReport} {text : String}
    (printed : render .json reports = .ok text) :
    Json.parse text = .ok (.arr (reports.map toJson)) := by
  have distinct : Json.HasDistinctKeys (.arr (reports.map toJson)) := by
    refine .arr _ ?_
    intro item member
    obtain ⟨r, -, rfl⟩ := List.mem_map.1 member
    exact .fileReport r
  rw [render] at printed
  cases written : Json.render (.arr (reports.map toJson)) with
  | error e =>
      rw [written] at printed
      cases printed
  | ok whole =>
      rw [written] at printed
      rw [← Except.ok.inj printed, printed_of_render written]
      exact Json.parse_written distinct written (.inr rfl)

end FileReport

/-- A value that tells a comment: it has exactly the keys of a diagnostic without tags, and the
comment's places, level, code and message can be told from it. -/
structure Comment.IsToldBy (c : Comment) (diagnostic : Json) : Prop where
  keys_eq : ∃ entries, diagnostic = .obj entries ∧
    entries.map Prod.fst = ["range", "severity", "code", "codeDescription", "message", "source"]
  told : Finding.ofJson? diagnostic = some c.finding

theorem Depicts.isToldBy {c : Comment} {d : Diagnostic} (depicts : Depicts c d) :
    c.IsToldBy d.toJson := by
  refine ⟨?_, Finding.ofJson?_toJson depicts⟩
  simp only [Diagnostic.toJson, depicts.tags_eq]
  exact ⟨_, rfl, rfl⟩

/-- Whatever was found, the printed reports read as one object for each of them with one value for
each comment, that tells it. -/
theorem FileReport.comments_recovered (made : List (FileReport × Report))
    (mapped : ∀ m ∈ made, m.2.toDiagnostics = .ok m.1.diagnostics) {text : String}
    (printed : render .json (made.map Prod.fst) = .ok text) :
    ∃ items, Json.parse text = .ok (.arr items) ∧
      List.Forall₂
        (fun m item => ∃ diagnostics,
          item = .obj [("uri", .str m.1.uri), ("diagnostics", .arr diagnostics)] ∧
            List.Forall₂ Comment.IsToldBy m.2.comments diagnostics)
        made items := by
  refine ⟨_, parse_of_render printed, ?_⟩
  rw [List.map_map, List.forall₂_map_right_iff, List.forall₂_same]
  intro m member
  refine ⟨m.1.diagnostics.map Diagnostic.toJson, rfl, ?_⟩
  rw [List.forall₂_map_right_iff]
  have depicted := (m.2.toDiagnostics_eq_ok_iff m.1.diagnostics).1 (mapped m member)
  exact depicted.imp fun _ _ depicts => depicts.isToldBy

theorem FileReport.comments_recovered_through_escapes :
    let c : Comment := ⟨"-", 3, 3, 6, 8, "info", -86, "\x1b[31m quote \"a\\b\"\n😀", none⟩
    let d : Diagnostic := ⟨⟨⟨2, 5⟩, ⟨2, 7⟩⟩, .information, "SC-86",
      "https://www.shellcheck.net/wiki/SC-86", c.message, "shellcheck", none⟩
    let made : List (FileReport × Report) :=
      [(⟨Path.ofString "/srv/a b", "file:///srv/a%20b", [d]⟩, ⟨[c]⟩),
        (⟨Path.ofString "/srv/c", "file:///srv/c", []⟩, ⟨[]⟩)]
    (∀ m ∈ made, m.2.toDiagnostics = .ok m.1.diagnostics) ∧
      ∃ text first second ds, render .json (made.map Prod.fst) = .ok text ∧
        Json.parse text = .ok (.arr [first, second]) ∧
        first = .obj [("uri", .str "file:///srv/a%20b"), ("diagnostics", .arr ds)] ∧
        List.Forall₂ Comment.IsToldBy [c] ds := by
  intro c d made
  have mapped : ∀ m ∈ made, m.2.toDiagnostics = .ok m.1.diagnostics := by
    intro m member
    simp only [made, List.mem_cons, List.not_mem_nil, or_false] at member
    rcases member with rfl | rfl
    · rfl
    · rfl
  have short : ∀ n ∈ integers (made.map Prod.fst), isWritable n = true := by decide +kernel
  cases printed : render .json (made.map Prod.fst) with
  | error e =>
      obtain ⟨-, -, n, member, long⟩ := (render_eq_error_iff _ _ e).1 printed
      rw [short n member] at long
      cases long
  | ok text =>
      obtain ⟨items, parsed, told⟩ := comments_recovered made mapped printed
      obtain ⟨first, others, ⟨ds, first_eq, comments⟩, more, rfl⟩ :=
        List.forall₂_cons_left_iff.1 told
      obtain ⟨second, rest, -, nothing, rfl⟩ := List.forall₂_cons_left_iff.1 more
      obtain rfl := List.forall₂_nil_left_iff.1 nothing
      exact ⟨mapped, text, first, second, ds, rfl, parsed, first_eq, comments⟩

end LintBridge
