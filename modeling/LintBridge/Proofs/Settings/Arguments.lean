import LintBridge.Proofs.Linter.History
import LintBridge.Proofs.Settings.Loading
import LintBridge.Proofs.ShellWords.Writing
import LintBridge.Proofs.SourceSearch.Places

/-!
# Arguments from the environment to the command

Arguments are given in the environment as one text, in which every word is quoted as a shell would
read it. Words that were written in this way are loaded as they were (`argumentsOfText_written`),
and every command passes the arguments of its configuration on between what the linter itself puts
in front and the sign for the input (`passesOn_of_prepares`).
-/
set_option autoImplicit false

namespace LintBridge

/-- A command with words in the last place before the sign for its input. In front of them are the
places in which the analyser looks for sourced scripts, and the first of these is where it runs. -/
def Invocation.PassesOn (i : Invocation) (words : List String) : Prop :=
  ∃ executable dialect place places, i.cwd = some place ∧
    i.command =
      [executable, "--format=json1", "--external-sources", "--shell=" ++ dialect] ++
        (place :: places).map (fun p : Path => "--source-path=" ++ p.toString) ++ words ++ ["-"]

theorem passesOn_of_prepares {config : LinterConfig} {i : Invocation}
    (prepares : config.Prepares i) : i.PassesOn config.arguments := by
  obtain ⟨l, fs, d, folders, debug, rfl, ready⟩ := prepares
  obtain ⟨executable, dialect, s, -, -, searched, rfl, -⟩ := Linter.exists_search_of_run ready
  obtain ⟨more, places⟩ : ∃ more, s.places = s.cwd :: more :=
    ⟨_, (SourceSearch.ofDocument_eq_ok searched).2.2⟩
  refine ⟨executable, dialect, s.cwd, more, rfl, ?_⟩
  rw [Linter.command, SourceSearch.arguments, places]
  rfl

namespace Settings

theorem argumentsOfText_written (words : List String) :
    argumentsOfText (ShellWords.joinStrings words) = .ok words := by
  rw [argumentsOfText, ShellWords.joinStrings, String.toList_ofList, ShellWords.split_join]
  simp [Except.map]

/-- Whatever words are written into the variable for arguments, loading is refused for the limit on
the time only, and the settings have these words. Every command of a linter with these settings
passes the words on as they are, in every history, wherever it runs and whatever executable takes
the place of the one from the environment. -/
theorem written_arguments_are_passed_on (words : List String) {env : Environment}
    (written : env.lookup "SHELLCHECK_ARGUMENTS" = some (ShellWords.joinStrings words)) :
    ((∃ s, ofEnvironment env = .ok s) ↔ ∀ text, env.lookup "SHELLCHECK_TIMEOUT" = some text →
        Timeout.IsUnlimited text ∨ Timeout.IsNumeral text) ∧
      ∀ s, ofEnvironment env = .ok s → s.arguments = words ∧
        ∀ executable cwd history,
          ∀ run ∈ ((Session.ofConfig ({ s with executable }.toConfig cwd)).replay history).runs,
            run.2.PassesOn words := by
  have read : environmentArguments env = .ok words := by
    rw [environmentArguments, written]
    dsimp only
    rw [argumentsOfText_written]
  constructor
  · have accepted : (∃ s, ofEnvironment env = .ok s) ↔
        ¬ ∃ fault, ofEnvironment env = .error fault := by
      cases ofEnvironment env <;> simp
    rw [accepted, exists_ofEnvironment_eq_error_iff, exists_environmentTimeout_eq_error_iff, read]
    simp only [reduceCtorEq, exists_false, false_or, not_exists, not_and, not_not]
    exact forall_congr' fun text => forall_congr' fun _ => or_iff_not_imp_left.symm
  · intro s loaded
    obtain ⟨arguments, -, -⟩ := (ofEnvironment_eq_ok_iff env s).1 loaded
    have same : s.arguments = words := Except.ok.inj (arguments.symm.trans read)
    refine ⟨same, fun executable cwd history run ran => ?_⟩
    have passes := passesOn_of_prepares (Session.prepares_of_mem_runs _ history run ran)
    rw [← same]
    exact passes

/-- An empty word, one with quotes of both kinds and a backslash, and one with blanks of several
kinds behind a number sign. -/
theorem written_arguments_of_a_command :
    let words := ["", "it's \"a\\b\"", "#x\n\t\u00E9"]
    let env := [("SHELLCHECK_TIMEOUT", " Off "),
      ("SHELLCHECK_ARGUMENTS", "'' 'it'\"'\"'s \"a\\b\"' '#x\n\t\u00E9'")]
    let s : Settings := ⟨some "shellcheck", words, none⟩
    let history : List SessionStep :=
      [⟨⟨[], []⟩, .started 0 ⟨⟨"untitled:1", "echo a\n", "shellscript"⟩, []⟩⟩]
    env.lookup "SHELLCHECK_ARGUMENTS" = some (ShellWords.joinStrings words) ∧
      ofEnvironment env = .ok s ∧
        ∃ run ∈ ((Session.ofConfig (s.toConfig (some Path.here))).replay history).runs,
          run.2.PassesOn words := by
  intro words env s history
  have written : env.lookup "SHELLCHECK_ARGUMENTS" = some (ShellWords.joinStrings words) := by
    decide +kernel
  have loaded : ofEnvironment env = .ok s := by decide +kernel
  have started : ((Session.ofConfig (s.toConfig (some Path.here))).replay history).runs ≠ [] := by
    decide +kernel
  obtain ⟨run, ran⟩ := List.exists_mem_of_ne_nil _ started
  obtain ⟨-, passed⟩ := (written_arguments_are_passed_on words written).2 s loaded
  exact ⟨written, loaded, run, ran, passed s.executable (some Path.here) history run ran⟩

end Settings

end LintBridge
