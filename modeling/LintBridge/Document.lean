import LintBridge.Text.Lines

/-!
Documents and workspace folders as an editor hands them over.

The lines of a document follow the wide convention of `Text.splitLines`.
-/
set_option autoImplicit false

namespace LintBridge

/-- A snapshot of a document, unsaved edits included. -/
structure Document where
  uri : String
  text : String
  languageId : String := "shellscript"

structure WorkspaceFolder where
  uri : String
  name : String

/-- The line with an index from zero, empty if there is none. -/
def Document.lineAt (d : Document) (index : Int) : String :=
  if index < 0 then ""
  else String.ofList ((Text.splitLines d.text.toList)[index.toNat]?.getD [])

end LintBridge
