import LintBridge.Linter
import LintBridge.Proofs.SourceSearch.Fault

/-!
# What a call does first

A linter attempts a document if it is on, an executable is configured and the dialect of the
document is known. A document that is not attempted is left alone; for any other there is a command
to run unless the search for sourced scripts cannot be set up (`prepare_cases`).
-/
set_option autoImplicit false

namespace LintBridge

def Task.IsRun (t : Task) : Prop := ∃ i debug, t = .run i debug

instance : DecidablePred Task.IsRun
  | .nothing => .isFalse (by rintro ⟨i, debug, same⟩; cases same)
  | .failed _ => .isFalse (by rintro ⟨i, debug, same⟩; cases same)
  | .run i debug => .isTrue ⟨i, debug, rfl⟩

theorem LinterConfig.isEnabled_iff (c : LinterConfig) :
    c.isEnabled = true ↔ ∃ name, c.executable = some name ∧ name ≠ "" := by
  cases named : c.executable with
  | none => simp [isEnabled, named]
  | some name => simp [isEnabled, named]

namespace Linter

/-- A linter that does not leave a document alone. -/
structure Attempts (l : Linter) (d : Document) : Prop where
  on : l.isOn = true
  enabled : l.config.isEnabled = true
  known : (Dialect.argument? d.text).isSome = true

theorem executable?_isSome_iff (l : Linter) :
    l.executable?.isSome = true ↔ l.isOn = true ∧ l.config.isEnabled = true := by
  simp only [executable?, LinterConfig.isEnabled]
  cases l.config.executable with
  | none => simp
  | some name => cases l.isOn <;> by_cases empty : name = "" <;> simp [empty]

/-- The command for a document that is attempted, with the line that announces it. -/
theorem prepare_of_attempts {l : Linter} {d : Document} (attempts : l.Attempts d) (fs : FileSystem)
    (folders : List WorkspaceFolder) :
    ∃ executable dialect, l.config.executable = some executable ∧
      Dialect.argument? d.text = some dialect ∧
      l.prepare fs d folders =
        match SourceSearch.ofDocument fs l.config.cwd d folders with
        | .error fault => .failed (.search fault)
        | .ok s =>
          let command := command l.config executable dialect s
          .run { command, cwd := some s.cwd, input := some d.text, timeout := l.config.timeout }
            ⟨.debug,
              s!"ShellCheck: running command={ShellWords.joinStrings command} cwd={s.cwd}"⟩ := by
  have present := l.executable?_isSome_iff.2 ⟨attempts.on, attempts.enabled⟩
  obtain ⟨executable, found⟩ := Option.isSome_iff_exists.1 present
  obtain ⟨dialect, known⟩ := Option.isSome_iff_exists.1 attempts.known
  refine ⟨executable, dialect, ?_, known, ?_⟩
  · simp only [executable?] at found
    split at found
    · split at found
      · rename_i named _
        rw [named, Option.some.inj found]
      · cases found
    · cases found
  · cases searched : SourceSearch.ofDocument fs l.config.cwd d folders with
    | error fault => simp only [prepare, found, known, searched]
    | ok s => simp only [prepare, found, known, searched]

theorem prepare_of_not_attempts {l : Linter} {d : Document} (idle : ¬ l.Attempts d)
    (fs : FileSystem) (folders : List WorkspaceFolder) : l.prepare fs d folders = .nothing := by
  unfold prepare
  split
  · rename_i executable dialect found known
    have present := l.executable?_isSome_iff.1 (Option.isSome_iff_exists.2 ⟨executable, found⟩)
    exact absurd ⟨present.1, present.2, Option.isSome_iff_exists.2 ⟨dialect, known⟩⟩ idle
  · rfl

/-- What a call for a document has to do first, and when. -/
theorem prepare_cases (l : Linter) (fs : FileSystem) (d : Document)
    (folders : List WorkspaceFolder) :
    (¬ l.Attempts d ∧ l.prepare fs d folders = .nothing) ∨
      (l.Attempts d ∧ ∃ fault, SourceSearch.Fails fs l.config.cwd d folders fault ∧
        l.prepare fs d folders = .failed (.search fault)) ∨
      (l.Attempts d ∧ (∀ fault, ¬ SourceSearch.Fails fs l.config.cwd d folders fault) ∧
        ∃ i debug, debug.level = .debug ∧ l.prepare fs d folders = .run i debug) := by
  by_cases attempts : l.Attempts d
  · obtain ⟨executable, dialect, -, -, prepared⟩ := prepare_of_attempts attempts fs folders
    cases searched : SourceSearch.ofDocument fs l.config.cwd d folders with
    | error fault =>
        rw [searched] at prepared
        have fails := (SourceSearch.ofDocument_eq_error_iff ..).1 searched
        exact Or.inr (Or.inl ⟨attempts, fault, fails, prepared⟩)
    | ok s =>
        rw [searched] at prepared
        refine Or.inr (Or.inr ⟨attempts, ?_, _, _, ?_, prepared⟩)
        · intro fault fails
          rw [SourceSearch.ofDocument_of_fails fails] at searched
          cases searched
        · rfl
  · exact Or.inl ⟨attempts, prepare_of_not_attempts attempts fs folders⟩

theorem prepare_eq_failed {l : Linter} {fs : FileSystem} {d : Document}
    {folders : List WorkspaceFolder} {fault : LintFault}
    (broken : l.prepare fs d folders = .failed fault) : l.Attempts d := by
  by_cases attempts : l.Attempts d
  · exact attempts
  · rw [prepare_of_not_attempts attempts] at broken
    cases broken

/-- Only a linter that is on runs commands, and it announces them for debugging. -/
theorem prepare_eq_run {l : Linter} {fs : FileSystem} {d : Document}
    {folders : List WorkspaceFolder} {i : Invocation} {debug : LogEntry}
    (ready : l.prepare fs d folders = .run i debug) : l.Attempts d ∧ debug.level = .debug := by
  rcases l.prepare_cases fs d folders with
    ⟨-, prepared⟩ | ⟨-, fault, -, prepared⟩ | ⟨attempts, -, i', debug', level, prepared⟩
  · rw [prepared] at ready
    cases ready
  · rw [prepared] at ready
    cases ready
  · rw [prepared] at ready
    cases ready
    exact ⟨attempts, level⟩

/-- Everything about a command that is run, and the line that announces it. -/
theorem exists_search_of_run {l : Linter} {fs : FileSystem} {d : Document}
    {folders : List WorkspaceFolder} {i : Invocation} {debug : LogEntry}
    (ready : l.prepare fs d folders = .run i debug) :
    ∃ word dialect s, l.config.executable = some word ∧ Dialect.argument? d.text = some dialect ∧
      SourceSearch.ofDocument fs l.config.cwd d folders = .ok s ∧
      i = { command := command l.config word dialect s, cwd := some s.cwd, input := some d.text,
            timeout := l.config.timeout } ∧
      debug = ⟨.debug,
        s!"ShellCheck: running command={ShellWords.joinStrings i.command} cwd={s.cwd}"⟩ := by
  obtain ⟨word, dialect, named, known, prepared⟩ :=
    prepare_of_attempts (prepare_eq_run ready).1 fs folders
  rw [prepared] at ready
  split at ready
  · cases ready
  · rename_i s searched
    cases ready
    exact ⟨word, dialect, s, named, known, searched, rfl, rfl⟩

/-- A command reads the text of its document. -/
theorem input_of_run {l : Linter} {fs : FileSystem} {d : Document} {folders : List WorkspaceFolder}
    {i : Invocation} {debug : LogEntry} (ready : l.prepare fs d folders = .run i debug) :
    i.input = some d.text := by
  obtain ⟨-, -, s, -, -, -, rfl, -⟩ := exists_search_of_run ready
  rfl

/-- The first word of every command is the executable that is configured. -/
theorem command_of_run {l : Linter} {fs : FileSystem} {d : Document}
    {folders : List WorkspaceFolder} {i : Invocation} {debug : LogEntry}
    (ready : l.prepare fs d folders = .run i debug) :
    ∃ word arguments, l.config.executable = some word ∧ i.command = word :: arguments := by
  obtain ⟨word, -, s, named, -, -, rfl, -⟩ := exists_search_of_run ready
  exact ⟨word, _, named, rfl⟩

end Linter

end LintBridge
