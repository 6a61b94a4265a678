import LintBridge.Dialect.Directive
import LintBridge.Dialect.Shebang

/-!
The shell dialect of a script.

A directive in the header wins over the shebang. A script that names no shell is checked as bash,
and one that names a shell the analyser does not know is not checked.
-/
set_option autoImplicit false

namespace LintBridge.Dialect

def supported : List String := ["sh", "bash", "dash", "ksh"]

/-- The dialect of a script that names none. -/
def fallback : String := "bash"

def declared? (text : String) : Option String :=
  (Directive.ofText? text.toList).or (Shebang.ofText? text.toList)

/-- The dialect to check a script as, none if it names a shell that the analyser does not know. -/
def argument? (text : String) : Option String :=
  match declared? text with
  | none => some fallback
  | some shell => if supported.contains shell then some shell else none

theorem argument?_mem (text : String) {shell : String} (h : argument? text = some shell) :
    shell ∈ supported := by
  simp only [argument?] at h
  split at h
  · obtain rfl := Option.some.inj h
    decide
  · split at h
    · obtain rfl := Option.some.inj h
      simp_all
    · simp at h

end LintBridge.Dialect
