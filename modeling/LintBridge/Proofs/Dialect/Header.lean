import LintBridge.Linter
import LintBridge.Proofs.Dialect.Directive

/-!
# The dialect of a script depends on its header only

What stands behind the first line of code, on lines of its own, has no say in the dialect
(`depends_on_header`): the lines in front of it stay as they are, and the header ends there. The
first line of the script, where a shebang stands, is in front of it as well; this line ends with a
line feed only.
-/
set_option autoImplicit false

namespace LintBridge

namespace Directive

/-- The header ends at the first line of code, whatever lines follow. -/
theorem ofLines?_append {lines : List (List Char)} (coded : ∃ line ∈ lines, IsCode line)
    (more : List (List Char)) : ofLines? (lines ++ more) = ofLines? lines := by
  have ended : (lines ++ more).takeWhile (fun line => !decide (IsCode line)) =
      lines.takeWhile fun line => !decide (IsCode line) := by
    induction lines with
    | nil => simp at coded
    | cons line rest ih =>
        rw [List.cons_append, List.takeWhile_cons, List.takeWhile_cons]
        by_cases code : IsCode line
        · simp [code]
        · obtain ⟨other, member, code'⟩ := coded
          rcases List.mem_cons.1 member with rfl | member
          · exact absurd code' code
          · rw [ih ⟨other, member, code'⟩]
  rw [ofLines?_eq, ofLines?_eq, ended]

/-- Directives behind a line of code and a line end do not count. -/
theorem ofText?_append {text : List Char} (coded : ∃ line ∈ Text.splitLines text, IsCode line)
    {e : Char} (ends : Text.isLineEnd e = true) (behind : List Char) :
    ofText? (text ++ e :: behind) = ofText? text := by
  have kept : Text.splitLines text <+: Text.splitLines (text ++ e :: behind) :=
    Text.splitLinesBy_prefix (by decide) ends text behind
  obtain ⟨more, lines⟩ := kept
  rw [ofText?, ← lines, ofLines?_append coded, ofText?]

end Directive

namespace Shebang

/-- A shebang in the first line is read from that line alone. -/
theorem ofText?_append (text behind : List Char) :
    ofText? (text ++ '\n' :: behind) = ofText? text := by
  have line : Text.firstLine (text ++ '\n' :: behind) = Text.firstLine text := by
    induction text with
    | nil => rfl
    | cons c rest ih =>
        simp only [Text.firstLine, List.cons_append, List.takeWhile_cons] at ih ⊢
        rw [ih]
  rw [ofText?, line, ofText?]

end Shebang

/-- The task with another text to read. -/
def Task.reading (text : String) : Task → Task
  | .nothing => .nothing
  | .failed fault => .failed fault
  | .run invocation debug => .run { invocation with input := some text } debug

/-- Of the text of a document only its dialect decides what there is to do. -/
theorem Linter.prepare_of_argument?_eq {d : Document} {text : String}
    (same : Dialect.argument? text = Dialect.argument? d.text) (l : Linter) (fs : FileSystem)
    (folders : List WorkspaceFolder) :
    l.prepare fs { d with text } folders = (l.prepare fs d folders).reading text := by
  have search : SourceSearch.ofDocument fs l.config.cwd { d with text } folders =
      SourceSearch.ofDocument fs l.config.cwd d folders := rfl
  simp only [prepare, same, search]
  cases l.executable? with
  | none => rfl
  | some executable =>
      cases Dialect.argument? d.text with
      | none => rfl
      | some dialect => cases SourceSearch.ofDocument fs l.config.cwd d folders <;> rfl

namespace Dialect

/-- A text with a line of code, which is neither blank nor a comment. -/
def HasCode (text : String) : Prop :=
  ∃ line ∈ Text.splitLines text.toList, Directive.IsCode line

instance (text : String) : Decidable (HasCode text) :=
  inferInstanceAs (Decidable (∃ line ∈ Text.splitLines text.toList, Directive.IsCode line))

/-- Whatever lines are put behind a text with a line of code, the shell that it declares and the
dialect to check it as stay the same. So does what a linter has to do for it: whether the document
is skipped, and the command that is run otherwise. -/
theorem depends_on_header {text : String} (coded : HasCode text) (behind : String) :
    declared? (text ++ "\n" ++ behind) = declared? text ∧
      argument? (text ++ "\n" ++ behind) = argument? text ∧
      ∀ (l : Linter) (fs : FileSystem) (d : Document) (folders : List WorkspaceFolder),
        d.text = text →
          l.prepare fs { d with text := text ++ "\n" ++ behind } folders =
            (l.prepare fs d folders).reading (text ++ "\n" ++ behind) := by
  have characters : (text ++ "\n" ++ behind).toList = text.toList ++ '\n' :: behind.toList := by
    simp
  have declared : declared? (text ++ "\n" ++ behind) = declared? text := by
    rw [declared?, characters, Directive.ofText?_append coded (by decide), Shebang.ofText?_append,
      declared?]
  have argument : argument? (text ++ "\n" ++ behind) = argument? text := by
    rw [argument?, declared, argument?]
  refine ⟨declared, argument, ?_⟩
  rintro l fs d folders rfl
  exact Linter.prepare_of_argument?_eq argument l fs folders

/-- A script that ends with a carriage return, to which the line feed behind it belongs. -/
theorem depends_on_header_of_carriage_return :
    let text := "#!/bin/ksh\n# run by hand\necho a\r"
    let behind := "# shellcheck shell=dash\n#!/bin/zsh\n"
    HasCode text ∧ declared? (text ++ "\n" ++ behind) = some "ksh" ∧
      argument? (text ++ "\n" ++ behind) = some "ksh" := by
  intro text behind
  have coded : HasCode text := by decide +kernel
  obtain ⟨declared, argument, -⟩ := depends_on_header coded behind
  refine ⟨coded, ?_, ?_⟩
  · rw [declared]
    decide +kernel
  · rw [argument]
    decide +kernel

end Dialect

end LintBridge
