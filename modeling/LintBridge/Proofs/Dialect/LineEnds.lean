import LintBridge.Proofs.Dialect.Header
import LintBridge.Proofs.Document.Loading
import LintBridge.Proofs.Linter.Preparation
import LintBridge.Proofs.Text.LineEnds

/-!
# The dialect of a script does not depend on its line ends

A script declares the same shell with line feeds and with pairs of a carriage return and a line feed
(`declared?_pairLineEnds`): its lines are the same for a directive, and from the first line, where a
shebang stands, the carriage return is trimmed away. What an editor holds with pairs and what is
loaded from the same file with line feeds are checked as the same dialect, or both are not checked.
-/
set_option autoImplicit false

namespace LintBridge

theorem Directive.ofText?_pairLineEnds {text : List Char} (absent : '\r' ∉ text) :
    ofText? (Text.pairLineEnds text) = ofText? text := by
  rw [ofText?, Text.splitLines_pairLineEnds absent, ofText?]

theorem Shebang.interpreter?_congr {line line' : List Char}
    (same : Text.trim line = Text.trim line') : interpreter? line = interpreter? line' := by
  rw [interpreter?, command?, same, interpreter?, command?]

theorem Shebang.ofText?_pairLineEnds (text : List Char) :
    ofText? (Text.pairLineEnds text) = ofText? text :=
  interpreter?_congr (Text.trim_firstLine_pairLineEnds text)

/-- A text with a carriage return in front of every line feed. -/
def pairedLineEnds (text : String) : String := String.ofList (Text.pairLineEnds text.toList)

namespace Dialect

theorem declared?_pairLineEnds {text : String} (absent : '\r' ∉ text.toList) :
    declared? (pairedLineEnds text) = declared? text := by
  rw [declared?, pairedLineEnds, String.toList_ofList, Directive.ofText?_pairLineEnds absent,
    Shebang.ofText?_pairLineEnds, declared?]

theorem argument?_pairLineEnds {text : String} (absent : '\r' ∉ text.toList) :
    argument? (pairedLineEnds text) = argument? text := by
  rw [argument?, declared?_pairLineEnds absent, argument?]

end Dialect

/-- A document is loaded with line feeds for the pairs in its file. -/
theorem Document.load_of_pairedLineEnds {fs : FileSystem} {p resolved : Path} {text : String}
    (absent : '\r' ∉ text.toList) (found : fs.resolve p = .ok resolved)
    (readable : fs.read resolved = .ok (Text.Utf8.encode (pairedLineEnds text).toList)) :
    Document.load fs p = .ok ⟨FileUri.ofPath resolved, text, "shellscript"⟩ := by
  refine load_eq_ok_iff.2 ⟨resolved, _, _, found, readable, Text.Utf8.decode_eq_ok_iff.2 rfl, ?_⟩
  rw [pairedLineEnds, String.toList_ofList, Text.unifyLineEnds_pairLineEnds absent,
    String.ofList_toList]

/-- The language that an editor has for a document does not matter. -/
theorem Linter.prepare_language (l : Linter) (fs : FileSystem) (uri text language : String)
    (folders : List WorkspaceFolder) :
    l.prepare fs ⟨uri, text, language⟩ folders = l.prepare fs ⟨uri, text, "shellscript"⟩ folders :=
  rfl

/-- With pairs of a carriage return and a line feed for its line feeds a script declares the same
shell and is checked as the same dialect, if at all. A document that is loaded from a file with such
pairs has the line feeds, and is checked as what an editor holds of that file: a linter attempts
both or neither, and under the same URI it does the same for both, each with its own text to
read. -/
theorem same_dialect_for_paired_line_ends {text : String} (absent : '\r' ∉ text.toList) :
    Dialect.declared? (pairedLineEnds text) = Dialect.declared? text ∧
      Dialect.argument? (pairedLineEnds text) = Dialect.argument? text ∧
      ∀ (fs : FileSystem) (p resolved : Path), fs.resolve p = .ok resolved →
        fs.read resolved = .ok (Text.Utf8.encode (pairedLineEnds text).toList) →
          ∃ d, Document.load fs p = .ok d ∧ d.uri = FileUri.ofPath resolved ∧ d.text = text ∧
            ∀ e : Document, e.text = pairedLineEnds text →
              Dialect.argument? e.text = Dialect.argument? d.text ∧
                ∀ l : Linter, (l.Attempts e ↔ l.Attempts d) ∧
                  (e.uri = d.uri → ∀ (fs' : FileSystem) (folders : List WorkspaceFolder),
                    l.prepare fs' e folders = (l.prepare fs' d folders).reading e.text) := by
  have argument := Dialect.argument?_pairLineEnds absent
  refine ⟨Dialect.declared?_pairLineEnds absent, argument, fun fs p resolved found readable => ?_⟩
  refine ⟨_, Document.load_of_pairedLineEnds absent found readable, rfl, rfl, ?_⟩
  rintro ⟨uri, _, language⟩ rfl
  refine ⟨argument, fun l => ⟨?_, ?_⟩⟩
  · constructor
    · rintro ⟨on, enabled, known⟩
      exact ⟨on, enabled, by rw [← argument]; exact known⟩
    · rintro ⟨on, enabled, known⟩
      exact ⟨on, enabled, by rw [argument]; exact known⟩
  · rintro rfl fs' folders
    rw [Linter.prepare_language]
    have step := Linter.prepare_of_argument?_eq
      (d := ⟨FileUri.ofPath resolved, text, "shellscript"⟩) argument l fs' folders
    exact step

/-- A script with another separator in front of a line end and one behind it, whose shell is the
last word but one of its first line. -/
theorem same_dialect_for_shebang_with_separators :
    let text := "#!/usr/bin/env -S ksh -e\x0b\n\u2028# shellcheck disable=SC1091\necho a\n"
    let octets := Text.Utf8.encode (pairedLineEnds text).toList
    let fs : FileSystem := ⟨[(["a"], .file true false octets)], []⟩
    let l := Linter.ofConfig { executable := some "shellcheck" }
    '\r' ∉ text.toList ∧ Dialect.declared? (pairedLineEnds text) = some "ksh" ∧
      ∃ d, Document.load fs (Path.ofNames .root ["a"]) = .ok d ∧ d.text = text ∧
        l.prepare fs ⟨d.uri, pairedLineEnds text, "ksh"⟩ [] =
          (l.prepare fs d []).reading (pairedLineEnds text) := by
  intro text octets fs l
  have absent : '\r' ∉ text.toList := by decide +kernel
  have entry : fs.node? ["a"] = some (.file true false octets) := rfl
  have resolved : fs.resolve (Path.ofNames .root ["a"]) = .ok (Path.ofNames .root ["a"]) :=
    FileSystem.resolve_of_root_entry (by decide) (by decide) (by decide) (by decide) entry (by simp)
  have readable : fs.read (Path.ofNames .root ["a"]) = .ok octets :=
    FileSystem.read_of_root_entry (by decide) (by decide) (by decide) entry
  obtain ⟨declared, -, loads⟩ := same_dialect_for_paired_line_ends absent
  obtain ⟨d, loaded, -, same, checks⟩ := loads fs _ _ resolved readable
  refine ⟨absent, ?_, d, loaded, same, ?_⟩
  · rw [declared]
    decide +kernel
  · exact ((checks ⟨d.uri, pairedLineEnds text, "ksh"⟩ rfl).2 l).2 rfl fs []

end LintBridge
