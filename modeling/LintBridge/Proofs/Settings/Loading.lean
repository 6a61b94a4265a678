import LintBridge.Linter
import LintBridge.Proofs.Linter.Preparation
import LintBridge.Proofs.Number.Numeral
import LintBridge.Proofs.ShellWords.Reading
import LintBridge.Proofs.Text.Lines
import LintBridge.Settings

/-!
# Which settings an environment has

Settings are loaded variable by variable: what is read of one is assigned to its field and checked
once more there. This second check never fails (`load_eq`), so that loading is refused exactly for
arguments that leave a quote or a backslash open and for a limit that is neither a word for none nor
the numeral of a number within the bounds of the format (`ofEnvironment_spec`). What is loaded is
valid, depends on three variables only, and lets a linter start exactly if it names an analyser.
-/
set_option autoImplicit false

namespace LintBridge

open Text (Stops)

/-! ## Limits -/

namespace Timeout

/-- The text that a limit is told from, without the blanks around it and in lower case. -/
def wordOf (text : String) : List Char := Text.lower (Text.trim text.toList)

/-- A word for the absence of a limit. -/
def IsUnlimited (text : String) : Prop := String.ofList (wordOf text) ∈ unlimitedWords

instance (text : String) : Decidable (IsUnlimited text) :=
  inferInstanceAs (Decidable (String.ofList (wordOf text) ∈ unlimitedWords))

/-- The numeral of a number that is rounded to a finite one and not to one below zero. -/
def IsNumeral (text : String) : Prop :=
  ∃ v, Binary64.Denotes (wordOf text) v ∧ -Binary64.underflowBound ≤ v ∧
    v < Binary64.overflowBound

/-- A limit that a JSON value can stand for. -/
def IsValid (limit : Timeout) : Prop :=
  ∀ x, limit = some x → x.isFinite = true ∧ x.isBelowZero = false

theorem isValid_standard : IsValid standard := by
  intro x same
  obtain rfl := Option.some.inj same
  decide +kernel

theorem ofText_of_isUnlimited {text : String} (unlimited : IsUnlimited text) :
    ofText text = .ok none := by
  have listed : unlimitedWords.contains (String.ofList (wordOf text)) = true :=
    List.contains_iff_mem.2 unlimited
  exact if_pos listed

theorem ofText_eq_ok_iff {text : String} (limited : ¬ IsUnlimited text) (limit : Timeout) :
    ofText text = .ok limit ↔
      ∃ x, limit = some x ∧ Binary64.ofLocal? (wordOf text) = some x ∧ x.isFinite = true ∧
        x.isBelowZero = false := by
  have unlisted :
      ¬ unlimitedWords.contains (String.ofList (Text.lower (Text.trim text.toList))) = true :=
    mt List.contains_iff_mem.1 limited
  rw [ofText, wordOf, if_neg unlisted]
  cases Binary64.ofLocal? (Text.lower (Text.trim text.toList)) with
  | none => simp
  | some x =>
      by_cases within : x.isFinite = true ∧ x.isBelowZero = false
      · have inside : (x.isBelowZero || !x.isFinite) = false := by
          rw [within.1, within.2]
          rfl
        simp only [inside, Bool.false_eq_true, if_false, Except.ok.injEq, Option.some.injEq]
        constructor
        · rintro rfl
          exact ⟨x, rfl, rfl, within⟩
        · rintro ⟨y, rfl, rfl, -⟩
          rfl
      · have outside : (x.isBelowZero || !x.isFinite) = true := by
          by_contra inside
          rw [Bool.not_eq_true, Bool.or_eq_false_iff, Bool.not_eq_false'] at inside
          exact within inside.symm
        simp only [outside, if_true, reduceCtorEq, Option.some.injEq, false_iff]
        rintro ⟨y, -, rfl, finite, above⟩
        exact within ⟨finite, above⟩

/-- A text is refused exactly if it is neither a word for none nor the numeral of a number. -/
theorem exists_ofText_eq_error_iff (text : String) :
    (∃ fault, ofText text = .error fault) ↔ ¬ IsUnlimited text ∧ ¬ IsNumeral text := by
  by_cases unlimited : IsUnlimited text
  · simp [ofText_of_isUnlimited unlimited, unlimited]
  · have numeral : IsNumeral text ↔ ∃ limit, ofText text = .ok limit := by
      rw [IsNumeral, ← Binary64.exists_ofLocal?_iff]
      simp only [ofText_eq_ok_iff unlimited]
      constructor
      · rintro ⟨x, read⟩
        exact ⟨some x, x, rfl, read⟩
      · rintro ⟨_, x, rfl, read⟩
        exact ⟨x, read⟩
    rw [and_iff_right unlimited, numeral]
    cases ofText text <;> simp

/-- A limit that a field holds: a number that does not lie below zero, or none. -/
def IsAllowed (limit : Timeout) : Prop :=
  ∀ x, limit = some x → x.isBelowZero = false ∧ x.isNaN = false

theorem IsValid.isAllowed {limit : Timeout} (valid : IsValid limit) : IsAllowed limit := by
  intro x same
  obtain ⟨finite, above⟩ := valid x same
  rw [Binary64.isFinite, decide_eq_true_iff] at finite
  exact ⟨above, decide_eq_false (Nat.lt_asymm finite)⟩

/-- What a field holds passes its check again. -/
theorem ofJson_of_isAllowed {limit : Timeout} (allowed : IsAllowed limit) (place : List Step) :
    ofJson place (limit.elim .null .float) = .ok limit := by
  cases limit with
  | none => rfl
  | some x =>
      obtain ⟨above, number⟩ := allowed x rfl
      have checked : ofJson place (.float x) =
          if x.isBelowZero || x.isNaN then violation place .atLeastZero else .ok (some x) := rfl
      exact checked.trans (if_neg (by rw [above, number]; decide))

theorem isValid_of_ofText {text : String} {limit : Timeout} (read : ofText text = .ok limit) :
    IsValid limit := by
  intro x same
  exact ofText_isFinite (same ▸ read)

end Timeout

/-! ## Arguments -/

/-- A text of arguments that leaves a quote open or ends in a backslash that quotes nothing. -/
def LeavesOpen (text : String) : Prop :=
  ∃ (pieces : List ShellWords.Piece) (o : ShellWords.Opening),
    text.toList = pieces.flatMap ShellWords.Piece.source ++ o.source

theorem Json.texts_map_str (expected : Expectation) (place : List Step) (words : List String) :
    Json.texts expected place (.arr (words.map .str)) = .ok words := by
  have each (n : Nat) : Checked.all (Json.checkTexts place n (words.map .str)) = .ok words := by
    induction words generalizing n with
    | nil => rfl
    | cons word more ih =>
        rw [List.map_cons, Json.checkTexts, Json.text, Checked.all, ih]
        rfl
  exact each 0

namespace Settings

theorem argumentsOfText_eq_ok_iff (text : String) (arguments : List String) :
    argumentsOfText text = .ok arguments ↔
      ∃ pieces : List ShellWords.Piece, text.toList = pieces.flatMap ShellWords.Piece.source ∧
        arguments = (ShellWords.wordsOf pieces).map String.ofList := by
  rw [argumentsOfText]
  constructor
  · intro read
    cases split : ShellWords.split text.toList with
    | error fault =>
        rw [split] at read
        cases read
    | ok words =>
        rw [split] at read
        obtain ⟨pieces, source, rfl⟩ := (ShellWords.split_eq_ok_iff _ _).1 split
        exact ⟨pieces, source, (Except.ok.inj read).symm⟩
  · rintro ⟨pieces, source, rfl⟩
    rw [(ShellWords.split_eq_ok_iff _ _).2 ⟨pieces, source, rfl⟩]
    rfl

theorem exists_argumentsOfText_eq_error_iff (text : String) :
    (∃ fault, argumentsOfText text = .error fault) ↔ LeavesOpen text := by
  have refused (fault : ShellWords.Fault) :
      argumentsOfText text = .error fault ↔ ShellWords.split text.toList = .error fault := by
    rw [argumentsOfText]
    cases ShellWords.split text.toList <;> simp [Except.map]
  simp only [refused, ShellWords.split_eq_error_iff, LeavesOpen]
  constructor
  · rintro ⟨_, pieces, o, source, -⟩
    exact ⟨pieces, o, source⟩
  · rintro ⟨pieces, o, source⟩
    exact ⟨_, pieces, o, source, rfl⟩

/-! ## Loading field by field -/

/-- Why settings are not loaded: a variable that is refused, or a value that its field refuses. -/
inductive LoadFault where
  | refused (fault : SettingsFault)
  | invalid (violations : List Violation)

/-- Gives what was read of a variable to a field, which checks it. -/
def give (s : Settings) (name : String) (value : Json) : Except LoadFault Settings :=
  (s.assign name value).mapError .invalid

def giveExecutable (env : Environment) (s : Settings) : Except LoadFault Settings :=
  match env.lookup "SHELLCHECK_PATH" with
  | none => .ok s
  | some text => s.give "shellcheck_path" ((executableOfText text).elim .null .str)

def giveArguments (env : Environment) (s : Settings) : Except LoadFault Settings :=
  match env.lookup "SHELLCHECK_ARGUMENTS" with
  | none => .ok s
  | some text =>
    match argumentsOfText text with
    | .error fault => .error (.refused (.arguments fault))
    | .ok arguments => s.give "shellcheck_arguments" (.arr (arguments.map .str))

def giveTimeout (env : Environment) (s : Settings) : Except LoadFault Settings :=
  match env.lookup "SHELLCHECK_TIMEOUT" with
  | none => .ok s
  | some text =>
    match Timeout.ofText text with
    | .error fault => .error (.refused (.timeout fault))
    | .ok limit => s.give "timeout" (limit.elim .null .float)

/-- The settings of an environment, as the standard settings with one assignment after another. -/
def load (env : Environment) : Except LoadFault Settings := do
  let s ← giveExecutable env {}
  let s ← giveArguments env s
  giveTimeout env s

theorem give_executable (s : Settings) (executable : Option String) :
    s.give "shellcheck_path" (executable.elim .null .str) = .ok { s with executable } := by
  cases executable <;> rfl

theorem give_arguments (s : Settings) (arguments : List String) :
    s.give "shellcheck_arguments" (.arr (arguments.map .str)) = .ok { s with arguments } := by
  rw [give, assign, Json.texts_map_str]
  rfl

theorem give_timeout (s : Settings) {timeout : Timeout} (valid : timeout.IsValid) :
    s.give "timeout" (timeout.elim .null .float) = .ok { s with timeout } := by
  rw [give, assign, Timeout.ofJson_of_isAllowed valid.isAllowed]
  rfl

/-- The name that an environment has for the analyser. -/
def environmentExecutable (env : Environment) : Option String :=
  match env.lookup "SHELLCHECK_PATH" with
  | some text => executableOfText text
  | none => some "shellcheck"

theorem ofEnvironment_eq (env : Environment) :
    ofEnvironment env = (do
      let arguments ← environmentArguments env
      let timeout ← environmentTimeout env
      .ok { executable := environmentExecutable env, arguments, timeout }) := rfl

theorem giveExecutable_standard (env : Environment) :
    giveExecutable env {} = .ok { executable := environmentExecutable env } := by
  rw [giveExecutable, environmentExecutable]
  cases env.lookup "SHELLCHECK_PATH" with
  | none => rfl
  | some text => exact give_executable {} (executableOfText text)

theorem giveArguments_of_eq_nil (env : Environment) {s : Settings} (unset : s.arguments = []) :
    giveArguments env s =
      ((environmentArguments env).map fun arguments => { s with arguments }).mapError
        LoadFault.refused := by
  rw [giveArguments, environmentArguments]
  cases env.lookup "SHELLCHECK_ARGUMENTS" with
  | none =>
      cases s
      cases unset
      rfl
  | some text =>
      dsimp only
      cases argumentsOfText text with
      | error fault => rfl
      | ok arguments => exact give_arguments s arguments

theorem giveTimeout_of_eq_standard (env : Environment) {s : Settings}
    (unset : s.timeout = Timeout.standard) :
    giveTimeout env s =
      ((environmentTimeout env).map fun timeout => { s with timeout }).mapError
        LoadFault.refused := by
  rw [giveTimeout, environmentTimeout]
  cases env.lookup "SHELLCHECK_TIMEOUT" with
  | none =>
      cases s
      cases unset
      rfl
  | some text =>
      dsimp only
      cases read : Timeout.ofText text with
      | error fault => rfl
      | ok timeout => exact give_timeout s (Timeout.isValid_of_ofText read)

/-- No field refuses what was read of its variable, so loading fails for a variable only. -/
theorem load_eq (env : Environment) :
    load env = (ofEnvironment env).mapError LoadFault.refused := by
  rw [load, ofEnvironment_eq, giveExecutable_standard]
  change (giveArguments env _ >>= giveTimeout env) = _
  rw [giveArguments_of_eq_nil env rfl]
  cases environmentArguments env with
  | error fault => rfl
  | ok arguments =>
      change giveTimeout env _ = _
      rw [giveTimeout_of_eq_standard env rfl]
      cases environmentTimeout env <;> rfl

/-! ## What is loaded -/

theorem ofEnvironment_eq_ok_iff (env : Environment) (s : Settings) :
    ofEnvironment env = .ok s ↔
      environmentArguments env = .ok s.arguments ∧ environmentTimeout env = .ok s.timeout ∧
        environmentExecutable env = s.executable := by
  obtain ⟨executable, arguments, timeout⟩ := s
  rw [ofEnvironment_eq]
  cases environmentArguments env with
  | error fault => simp [bind, Except.bind]
  | ok arguments' =>
      cases environmentTimeout env with
      | error fault => simp [bind, Except.bind]
      | ok timeout' => simp [bind, Except.bind]; tauto

theorem exists_ofEnvironment_eq_error_iff (env : Environment) :
    (∃ fault, ofEnvironment env = .error fault) ↔
      (∃ fault, environmentArguments env = .error fault) ∨
        ∃ fault, environmentTimeout env = .error fault := by
  rw [ofEnvironment_eq]
  cases environmentArguments env <;> cases environmentTimeout env <;> simp [bind, Except.bind]

theorem exists_environmentArguments_eq_error_iff (env : Environment) :
    (∃ fault, environmentArguments env = .error fault) ↔
      ∃ text, env.lookup "SHELLCHECK_ARGUMENTS" = some text ∧ LeavesOpen text := by
  rw [environmentArguments]
  cases env.lookup "SHELLCHECK_ARGUMENTS" with
  | none => simp
  | some text =>
      simp only [Option.some.injEq, exists_eq_left', ← exists_argumentsOfText_eq_error_iff]
      cases argumentsOfText text <;> simp

theorem exists_environmentTimeout_eq_error_iff (env : Environment) :
    (∃ fault, environmentTimeout env = .error fault) ↔
      ∃ text, env.lookup "SHELLCHECK_TIMEOUT" = some text ∧ ¬ Timeout.IsUnlimited text ∧
        ¬ Timeout.IsNumeral text := by
  rw [environmentTimeout]
  cases env.lookup "SHELLCHECK_TIMEOUT" with
  | none => simp
  | some text =>
      simp only [Option.some.injEq, exists_eq_left', ← Timeout.exists_ofText_eq_error_iff]
      cases Timeout.ofText text <;> simp

/-- A name that a text holds between blanks and that has no blank at its ends. -/
structure IsNameIn (name : String) (text : String) : Prop where
  ne_empty : name ≠ ""
  between : ∃ front behind, text.toList = front ++ (name.toList ++ behind) ∧
    (∀ c ∈ front, Text.isBlank c = true) ∧ ∀ c ∈ behind, Text.isBlank c = true
  start : Stops Text.isBlank name.toList
  stop : Stops Text.isBlank name.toList.reverse

/-- What settings hold that were loaded: for each of three variables the standard value if it is not
set, and otherwise what the text of the variable says. -/
structure IsLoadedFrom (env : Environment) (s : Settings) : Prop where
  executable_unset : env.lookup "SHELLCHECK_PATH" = none → s.executable = some "shellcheck"
  executable_blank : ∀ text, env.lookup "SHELLCHECK_PATH" = some text →
    (∀ c ∈ text.toList, Text.isBlank c = true) → s.executable = none
  executable_named : ∀ text, env.lookup "SHELLCHECK_PATH" = some text →
    ¬ (∀ c ∈ text.toList, Text.isBlank c = true) →
      ∃ name, s.executable = some name ∧ IsNameIn name text
  arguments_unset : env.lookup "SHELLCHECK_ARGUMENTS" = none → s.arguments = []
  arguments_words : ∀ text, env.lookup "SHELLCHECK_ARGUMENTS" = some text →
    ∃ pieces : List ShellWords.Piece, text.toList = pieces.flatMap ShellWords.Piece.source ∧
      s.arguments = (ShellWords.wordsOf pieces).map String.ofList
  timeout_unset : env.lookup "SHELLCHECK_TIMEOUT" = none → s.timeout = Timeout.standard
  timeout_unlimited : ∀ text, env.lookup "SHELLCHECK_TIMEOUT" = some text →
    Timeout.IsUnlimited text → s.timeout = none
  timeout_number : ∀ text, env.lookup "SHELLCHECK_TIMEOUT" = some text →
    ¬ Timeout.IsUnlimited text →
      ∃ x, s.timeout = some x ∧ Binary64.ofLocal? (Timeout.wordOf text) = some x
  timeout_isValid : s.timeout.IsValid

/-- A text is the name of no analyser if it is blank, and else of the one between its blanks. -/
theorem executableOfText_spec (text : String) :
    ((∀ c ∈ text.toList, Text.isBlank c = true) → executableOfText text = none) ∧
      (¬ (∀ c ∈ text.toList, Text.isBlank c = true) →
        ∃ name, executableOfText text = some name ∧ IsNameIn name text) := by
  have empty : String.ofList (Text.trim text.toList) = "" ↔
      ∀ c ∈ text.toList, Text.isBlank c = true := by
    rw [← Text.trim_eq_nil_iff, ← String.toList_inj, String.toList_ofList, String.toList_empty]
  refine ⟨fun blank => if_pos (empty.2 blank), fun named => ?_⟩
  have ne_empty := mt empty.1 named
  obtain ⟨front, behind, split, blank, blank', start, stop⟩ :=
    Text.exists_trim_append text.toList
  refine ⟨_, if_neg ne_empty, ne_empty, ⟨front, behind, ?_, blank, blank'⟩, ?_, ?_⟩
  all_goals rw [String.toList_ofList]
  · exact split
  · exact start
  · exact stop

theorem isValid_of_environmentTimeout {env : Environment} {timeout : Timeout}
    (read : environmentTimeout env = .ok timeout) : timeout.IsValid := by
  rw [environmentTimeout] at read
  split at read
  · obtain rfl := Except.ok.inj read
    exact Timeout.isValid_standard
  · split at read
    · rename_i told
      obtain rfl := Except.ok.inj read
      exact Timeout.isValid_of_ofText told
    · cases read

theorem isLoadedFrom_of_ofEnvironment {env : Environment} {s : Settings}
    (loaded : ofEnvironment env = .ok s) : s.IsLoadedFrom env := by
  obtain ⟨arguments, timeout, executable⟩ := (ofEnvironment_eq_ok_iff env s).1 loaded
  have valid := isValid_of_environmentTimeout timeout
  rw [environmentArguments] at arguments
  rw [environmentTimeout] at timeout
  rw [environmentExecutable] at executable
  constructor
  case timeout_isValid => exact valid
  case executable_unset =>
    intro unset
    rw [← executable, unset]
  case executable_blank =>
    intro text given blank
    rw [← executable, given]
    exact (executableOfText_spec text).1 blank
  case executable_named =>
    intro text given named
    rw [← executable, given]
    exact (executableOfText_spec text).2 named
  case arguments_unset =>
    intro unset
    rw [unset] at arguments
    exact (Except.ok.inj arguments).symm
  case arguments_words =>
    intro text given
    simp only [given] at arguments
    split at arguments
    · rename_i words read
      obtain rfl := Except.ok.inj arguments
      exact (argumentsOfText_eq_ok_iff text _).1 read
    · cases arguments
  case timeout_unset =>
    intro unset
    rw [unset] at timeout
    exact (Except.ok.inj timeout).symm
  case timeout_unlimited =>
    intro text given unlimited
    simp only [given, Timeout.ofText_of_isUnlimited unlimited] at timeout
    exact (Except.ok.inj timeout).symm
  case timeout_number =>
    intro text given limited
    simp only [given] at timeout
    split at timeout
    · rename_i limit read
      obtain rfl := Except.ok.inj timeout
      obtain ⟨x, same, told, -⟩ := (Timeout.ofText_eq_ok_iff limited _).1 read
      exact ⟨x, same, told⟩
    · cases timeout

/-- A linter starts exactly if there is an analyser, since the name of one is never empty. -/
theorem isOn_eq_isSome {env : Environment} {s : Settings} (loaded : s.IsLoadedFrom env)
    (cwd : Option Path) : (Linter.ofConfig (s.toConfig cwd)).isOn = s.executable.isSome := by
  have named : ∀ name, s.executable = some name → name ≠ "" := by
    intro name given
    cases set : env.lookup "SHELLCHECK_PATH" with
    | none =>
        rw [loaded.executable_unset set, Option.some.injEq] at given
        rw [← given]
        decide
    | some text =>
        by_cases blank : ∀ c ∈ text.toList, Text.isBlank c = true
        · rw [loaded.executable_blank text set blank] at given
          cases given
        · obtain ⟨name', given', isName⟩ := loaded.executable_named text set blank
          obtain rfl := Option.some.inj (given.symm.trans given')
          exact isName.ne_empty
  rw [Linter.ofConfig, Bool.eq_iff_iff, LinterConfig.isEnabled_iff, Option.isSome_iff_exists]
  constructor
  · rintro ⟨name, given, -⟩
    exact ⟨name, given⟩
  · rintro ⟨name, given⟩
    exact ⟨name, given, named name given⟩

/-- The variables that settings are loaded from. -/
def variableNames : List String := ["SHELLCHECK_PATH", "SHELLCHECK_ARGUMENTS", "SHELLCHECK_TIMEOUT"]

theorem ofEnvironment_congr {env env' : Environment}
    (same : ∀ name ∈ variableNames, env'.lookup name = env.lookup name) :
    ofEnvironment env' = ofEnvironment env := by
  simp only [variableNames, List.forall_mem_cons] at same
  obtain ⟨path, arguments, timeout, -⟩ := same
  rw [ofEnvironment, ofEnvironment, environmentArguments, environmentTimeout,
    environmentArguments, environmentTimeout, path, arguments, timeout]

/-- Loading fails for a variable or gives valid settings, and no field ever refuses what was read of
its variable. It fails exactly for arguments that leave a quote or a backslash open and for a limit
that is neither a word for none nor the numeral of a number that is rounded to a finite one which
does not lie below zero. What is loaded tells the text of each variable that is set, depends on no
other variable, and lets a linter start exactly if there is an analyser. -/
theorem loading_fails_or_is_valid (env : Environment) :
    load env = (ofEnvironment env).mapError LoadFault.refused ∧
      ((∃ fault, ofEnvironment env = .error fault) ↔
        (∃ text, env.lookup "SHELLCHECK_ARGUMENTS" = some text ∧ LeavesOpen text) ∨
          ∃ text, env.lookup "SHELLCHECK_TIMEOUT" = some text ∧ ¬ Timeout.IsUnlimited text ∧
            ¬ Timeout.IsNumeral text) ∧
      (∀ s, ofEnvironment env = .ok s →
        s.IsLoadedFrom env ∧
          ∀ cwd, (Linter.ofConfig (s.toConfig cwd)).isOn = s.executable.isSome) ∧
      ∀ env', (∀ name ∈ variableNames, env'.lookup name = env.lookup name) →
        load env' = load env ∧ ofEnvironment env' = ofEnvironment env := by
  refine ⟨load_eq env, ?_, fun s loaded => ?_, fun env' same => ?_⟩
  · rw [exists_ofEnvironment_eq_error_iff, exists_environmentArguments_eq_error_iff,
      exists_environmentTimeout_eq_error_iff]
  · have from' := isLoadedFrom_of_ofEnvironment loaded
    exact ⟨from', isOn_eq_isSome from'⟩
  · have equal := ofEnvironment_congr same
    exact ⟨by rw [load_eq, load_eq, equal], equal⟩

example :
    (ofEnvironment [("SHELLCHECK_PATH", " /opt/sc "), ("SHELLCHECK_ARGUMENTS", "-x 'a b'"),
      ("SHELLCHECK_TIMEOUT", " 1_0.5E-1")]).toOption =
        some ⟨some "/opt/sc", ["-x", "a b"], some (Binary64.ofDecimal false 105 (-2))⟩ := by
  decide +kernel

end Settings

end LintBridge
