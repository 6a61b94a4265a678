import LintBridge.Proofs.Report.Validation
import LintBridge.Proofs.Settings.Loading

/-!
# Settings under assignments

An assignment that is accepted gives one field what the value stands for (`Settings.Assigns`), and
one that is refused changes nothing. So whatever is assigned, the limit on the time stays one that
the field holds (`Settings.isAllowed_after`), and a configuration that is made from the settings
passes checks of its own and holds the same values (`Settings.ofEntries_configEntries`).
-/
set_option autoImplicit false

namespace LintBridge

/-! ## What values stand for -/

namespace Json

/-- What number a value stands for: an integer for the nearest one unless that is an infinity, a
truth value for one or zero, and a text for the number that it is a numeral of. -/
inductive StandsForNumber : Json → Binary64 → Prop where
  | float (x : Binary64) : StandsForNumber (.float x) x
  | int (n : Int) (finite : (Binary64.ofInt n).isFinite = true) :
      StandsForNumber (.int n) (Binary64.ofInt n)
  | bool (b : Bool) : StandsForNumber (.bool b) (Binary64.ofInt (if b then 1 else 0))
  | str (s : String) (x : Binary64) (numeral : Binary64.ofLoose? s.toList = some x) :
      StandsForNumber (.str s) x

inductive StandsForLimit : Json → Timeout → Prop where
  | unlimited : StandsForLimit .null none
  | seconds (value : Json) (x : Binary64) (number : value.StandsForNumber x)
      (above : x.isBelowZero = false) (isNumber : x.isNaN = false) : StandsForLimit value (some x)

theorem StandsForLimit.isAllowed {value : Json} {limit : Timeout}
    (stands : value.StandsForLimit limit) : limit.IsAllowed := by
  rcases stands with _ | ⟨-, x, -, above, isNumber⟩
  · intro x same
    cases same
  · intro y same
    obtain rfl := Option.some.inj same
    exact ⟨above, isNumber⟩

inductive StandsForName : Json → Option String → Prop where
  | none : StandsForName .null none
  | str (name : String) : StandsForName (.str name) (some name)

inductive StandsForWords : Json → List String → Prop where
  | arr (words : List String) : StandsForWords (.arr (words.map .str)) words

theorem optional_text_eq_ok_iff (place : List Step) (value : Json) (name : Option String) :
    Json.optional Json.text place value = .ok name ↔ value.StandsForName name := by
  constructor
  · intro read
    cases value with
    | null =>
        obtain rfl := Except.ok.inj read
        exact .none
    | str s =>
        obtain rfl := Except.ok.inj read
        exact .str s
    | _ => cases read
  · intro stands
    cases stands <;> rfl

theorem checkTexts_forall₂_iff (place : List Step) (n : Nat) (items : List Json)
    (words : List String) :
    List.Forall₂ (fun outcome word => outcome = .ok word) (Json.checkTexts place n items) words ↔
      items = words.map .str := by
  induction items generalizing n words with
  | nil =>
      rw [checkTexts, List.forall₂_nil_left_iff, eq_comm (a := ([] : List Json)),
        List.map_eq_nil_iff]
  | cons item more ih =>
      rw [checkTexts, List.forall₂_cons_left_iff, eq_comm (a := item :: more), List.map_eq_cons_iff]
      simp only [FieldKind.isCheckedBy_text.ok_iff, ih]
      constructor
      · rintro ⟨word, words', rfl, rfl, rfl⟩
        exact ⟨word, words', rfl, rfl, rfl⟩
      · rintro ⟨word, words', rfl, rfl, rfl⟩
        exact ⟨word, words', rfl, rfl, rfl⟩

theorem texts_eq_ok_iff (expected : Expectation) (place : List Step) (value : Json)
    (words : List String) :
    Json.texts expected place value = .ok words ↔ value.StandsForWords words := by
  constructor
  · intro read
    cases value with
    | arr items =>
        rw [texts, Checked.all_eq_ok_iff, checkTexts_forall₂_iff] at read
        subst read
        exact .arr words
    | _ => cases read
  · intro stands
    cases stands
    exact texts_map_str expected place words

end Json

namespace Timeout

theorem number_eq_ok_iff (place : List Step) (value : Json) (x : Binary64) :
    number place value = .ok x ↔ value.StandsForNumber x := by
  constructor
  · intro read
    cases value with
    | float y =>
        obtain rfl := Except.ok.inj read
        exact .float y
    | int n =>
        rw [number] at read
        split_ifs at read with finite
        · obtain rfl := Except.ok.inj read
          exact .int n finite
        · cases read
    | bool b =>
        obtain rfl := Except.ok.inj read
        exact .bool b
    | str s =>
        rw [number] at read
        split at read
        · rename_i numeral
          obtain rfl := Except.ok.inj read
          exact .str s _ numeral
        · cases read
    | _ => cases read
  · intro stands
    cases stands with
    | float => rfl
    | int n finite => exact if_pos finite
    | bool b => rfl
    | str s x numeral => rw [number, numeral]

theorem ofJson_of_ne_null {value : Json} (given : value ≠ .null) (place : List Step) :
    ofJson place value = (number place value).bind fun x =>
      if x.isBelowZero || x.isNaN then violation place .atLeastZero else .ok (some x) := by
  cases value with
  | null => exact absurd rfl given
  | _ =>
      rw [ofJson]
      · cases number place _ <;> rfl
      · exact given

theorem ofJson_eq_ok_iff (place : List Step) (value : Json) (limit : Timeout) :
    ofJson place value = .ok limit ↔ value.StandsForLimit limit := by
  constructor
  · intro read
    by_cases absent : value = .null
    · subst absent
      obtain rfl := Except.ok.inj read
      exact .unlimited
    · rw [ofJson_of_ne_null absent] at read
      cases told : number place value with
      | error vs =>
          rw [told] at read
          cases read
      | ok x =>
          rw [told, Except.bind] at read
          split_ifs at read with refused
          · cases read
          · obtain rfl := Except.ok.inj read
            rw [Bool.not_eq_true, Bool.or_eq_false_iff] at refused
            exact .seconds value x ((number_eq_ok_iff place value x).1 told) refused.1 refused.2
  · intro stands
    cases stands with
    | unlimited => rfl
    | seconds _ x told above isNumber =>
        have given : value ≠ .null := by
          rintro rfl
          cases told
        rw [ofJson_of_ne_null given, (number_eq_ok_iff place value x).2 told, Except.bind]
        exact if_neg (by rw [above, isNumber]; decide)

end Timeout

theorem Checked.map_eq_ok_iff {α β : Type} (outcome : Checked α) (f : α → β) (b : β) :
    outcome.map f = .ok b ↔ ∃ a, outcome = .ok a ∧ f a = b := by
  cases outcome <;> simp [Except.map]

namespace Settings

/-! ## One assignment -/

/-- What an assignment makes of settings: one of three fields gets what the value stands for, and
what has the name of no field is kept apart from them. -/
inductive Assigns (s : Settings) : String → Json → Settings → Prop where
  | executable (value : Json) (executable : Option String)
      (stands : value.StandsForName executable) :
      Assigns s "shellcheck_path" value { s with executable }
  | arguments (value : Json) (arguments : List String) (stands : value.StandsForWords arguments) :
      Assigns s "shellcheck_arguments" value { s with arguments }
  | timeout (value : Json) (timeout : Timeout) (stands : value.StandsForLimit timeout) :
      Assigns s "timeout" value { s with timeout }
  | apart (name : String) (value : Json) (isPrivate : name.toList.head? = some '_') :
      Assigns s name value s

theorem isPrivate_iff (name : String) : isPrivate name = true ↔ name.toList.head? = some '_' := by
  rw [isPrivate]
  cases name.toList.head? <;> simp [Option.isEqSome]

/-- The names of the fields, none of which is kept apart. -/
def fieldNames : List String := ["shellcheck_path", "shellcheck_arguments", "timeout"]

theorem assign_of_not_mem {name : String} (other : name ∉ fieldNames) (s : Settings)
    (value : Json) :
    s.assign name value =
      if isPrivate name then .ok s else violation [.key name] (.knownField name) := by
  simp only [fieldNames, List.mem_cons, List.not_mem_nil, or_false, not_or] at other
  rw [assign]
  · exact other.1
  · exact other.2.1
  · exact other.2.2

theorem assign_eq_ok_iff (s : Settings) (name : String) (value : Json) (next : Settings) :
    s.assign name value = .ok next ↔ s.Assigns name value next := by
  constructor
  · intro assigned
    by_cases own : name ∈ fieldNames
    · simp only [fieldNames, List.mem_cons, List.not_mem_nil, or_false] at own
      rcases own with rfl | rfl | rfl
      · obtain ⟨executable, read, rfl⟩ := (Checked.map_eq_ok_iff ..).1 assigned
        exact .executable value executable ((Json.optional_text_eq_ok_iff ..).1 read)
      · obtain ⟨arguments, read, rfl⟩ := (Checked.map_eq_ok_iff ..).1 assigned
        exact .arguments value arguments ((Json.texts_eq_ok_iff ..).1 read)
      · obtain ⟨timeout, read, rfl⟩ := (Checked.map_eq_ok_iff ..).1 assigned
        exact .timeout value timeout ((Timeout.ofJson_eq_ok_iff ..).1 read)
    · rw [assign_of_not_mem own] at assigned
      split_ifs at assigned with underscore
      · obtain rfl := Except.ok.inj assigned
        exact .apart name value ((isPrivate_iff name).1 underscore)
      · cases assigned
  · intro assigns
    cases assigns with
    | executable _ executable stands =>
        have read := (Json.optional_text_eq_ok_iff [.key "shellcheck_path"] value _).2 stands
        exact (Checked.map_eq_ok_iff ..).2 ⟨executable, read, rfl⟩
    | arguments _ arguments stands =>
        have read := (Json.texts_eq_ok_iff .list [.key "shellcheck_arguments"] value _).2 stands
        exact (Checked.map_eq_ok_iff ..).2 ⟨arguments, read, rfl⟩
    | timeout _ timeout stands =>
        have read := (Timeout.ofJson_eq_ok_iff [.key "timeout"] value _).2 stands
        exact (Checked.map_eq_ok_iff ..).2 ⟨timeout, read, rfl⟩
    | apart _ _ underscore =>
        have other : name ∉ fieldNames := by
          intro own
          simp only [fieldNames, List.mem_cons, List.not_mem_nil, or_false] at own
          rcases own with rfl | rfl | rfl <;> exact absurd underscore (by decide)
        rw [assign_of_not_mem other, if_pos ((isPrivate_iff name).2 underscore)]

theorem exists_assign_eq_error_iff (s : Settings) (name : String) (value : Json) :
    (∃ vs, s.assign name value = .error vs) ↔ ∀ next, ¬ s.Assigns name value next := by
  simp only [← assign_eq_ok_iff]
  cases s.assign name value <;> simp

/-! ## Histories of assignments -/

/-- The settings behind an assignment, which are the old ones if it is refused. -/
def attempt (s : Settings) (assignment : String × Json) : Settings :=
  match s.assign assignment.1 assignment.2 with
  | .ok next => next
  | .error _ => s

def after (s : Settings) (history : List (String × Json)) : Settings := history.foldl attempt s

theorem after_concat (s : Settings) (history : List (String × Json))
    (assignment : String × Json) :
    s.after (history ++ [assignment]) = (s.after history).attempt assignment := by
  rw [after, List.foldl_append]
  rfl

theorem isAllowed_of_ofEntries {entries : List (String × Json)} {s : Settings}
    (built : ofEntries entries = .ok s) : s.timeout.IsAllowed := by
  rw [ofEntries] at built
  split at built
  · rename_i executable arguments timeout _ _ read
    obtain rfl := Except.ok.inj built
    rw [Json.fieldOrElse] at read
    split at read
    · exact ((Timeout.ofJson_eq_ok_iff ..).1 read).isAllowed
    · obtain rfl := Except.ok.inj read
      exact Timeout.isValid_standard.isAllowed
  · cases built

theorem isAllowed_attempt {s : Settings} (allowed : s.timeout.IsAllowed)
    (assignment : String × Json) : (s.attempt assignment).timeout.IsAllowed := by
  obtain ⟨name, value⟩ := assignment
  rw [attempt]
  cases assigned : s.assign name value with
  | error vs => exact allowed
  | ok next =>
      cases (assign_eq_ok_iff ..).1 assigned with
      | executable => exact allowed
      | arguments => exact allowed
      | timeout _ timeout stands => exact stands.isAllowed
      | apart => exact allowed

theorem isAllowed_after {s : Settings} (allowed : s.timeout.IsAllowed)
    (history : List (String × Json)) : (s.after history).timeout.IsAllowed := by
  induction history generalizing s with
  | nil => exact allowed
  | cons assignment more ih => exact ih (isAllowed_attempt allowed assignment)

/-! ## The configuration of a linter -/

/-- What a configuration is made of: the fields under the names that it has for them, and a
directory to run in. -/
def configEntries (s : Settings) (cwd : Option String) : List (String × Json) :=
  [("executable_path", s.executable.elim .null .str), ("cwd", cwd.elim .null .str),
    ("arguments", .arr (s.arguments.map .str)), ("timeout", s.timeout.elim .null .float)]

/-- The checks of a configuration accept what settings hold and change nothing about it. -/
theorem ofEntries_configEntries {s : Settings} (allowed : s.timeout.IsAllowed)
    (cwd : Option String) :
    LinterConfig.ofEntries (s.configEntries cwd) = .ok (s.toConfig (cwd.map Path.ofString)) := by
  have executable : Json.fieldOrElse (s.configEntries cwd) "executable_path" none
      (Json.optional Json.text) = .ok s.executable := by
    change Json.optional Json.text _ (s.executable.elim .null .str) = _
    cases s.executable <;> rfl
  have directory : Json.fieldOrElse (s.configEntries cwd) "cwd" none (Json.optional Json.path) =
      .ok (cwd.map Path.ofString) := by
    cases cwd <;> rfl
  have arguments : Json.fieldOrElse (s.configEntries cwd) "arguments" [] (Json.texts .tuple) =
      .ok s.arguments :=
    Json.texts_map_str .tuple [.key "arguments"] s.arguments
  have timeout : Json.fieldOrElse (s.configEntries cwd) "timeout" Timeout.standard
      Timeout.ofJson = .ok s.timeout :=
    Timeout.ofJson_of_isAllowed allowed [.key "timeout"]
  rw [LinterConfig.ofEntries]
  simp only [executable, directory, arguments, timeout]
  rfl

/-- Whatever is assigned to settings that were built, and in whichever order, their limit is never
below zero and their configuration passes its own checks with the same values. A further assignment
is accepted exactly if it gives a field what its value stands for, which is then all that changes,
and one that is refused changes nothing. -/
theorem assignments_keep_settings_valid {entries : List (String × Json)} {start : Settings}
    (built : ofEntries entries = .ok start) (history : List (String × Json)) :
    (start.after history).timeout.IsAllowed ∧
      (∀ cwd, ∃ config,
        LinterConfig.ofEntries ((start.after history).configEntries cwd) = .ok config ∧
          config.executable = (start.after history).executable ∧
          config.arguments = (start.after history).arguments ∧
          config.timeout = (start.after history).timeout) ∧
      ∀ name value,
        (∀ next, (start.after history).assign name value = .ok next ↔
          (start.after history).Assigns name value next) ∧
        ((∃ vs, (start.after history).assign name value = .error vs) ↔
          ∀ next, ¬ (start.after history).Assigns name value next) ∧
        (∀ next, (start.after history).Assigns name value next →
          start.after (history ++ [(name, value)]) = next) ∧
        ((∀ next, ¬ (start.after history).Assigns name value next) →
          start.after (history ++ [(name, value)]) = start.after history) := by
  have allowed := isAllowed_after (isAllowed_of_ofEntries built) history
  refine ⟨allowed, fun cwd => ?_, fun name value => ⟨?_, ?_, ?_, ?_⟩⟩
  · exact ⟨_, ofEntries_configEntries allowed cwd, rfl, rfl, rfl⟩
  · exact assign_eq_ok_iff _ name value
  · exact exists_assign_eq_error_iff _ name value
  · intro next assigns
    rw [after_concat, attempt, (assign_eq_ok_iff ..).2 assigns]
  · intro refused
    obtain ⟨vs, failed⟩ := (exists_assign_eq_error_iff _ name value).2 refused
    rw [after_concat, attempt, failed]

/-- Of six assignments the first three are refused: a limit below zero, an argument that is no text,
and a field that there is not. What is no number is then refused as a limit, an infinity is not. -/
theorem settings_valid_after_refusals :
    let entries := [("timeout", Json.str "1_0.5e-1"), ("shellcheck_path", .null)]
    let start : Settings := ⟨none, [], some (Binary64.ofDecimal false 105 (-2))⟩
    let history := [("timeout", Json.int (-1)), ("shellcheck_arguments", .arr [.str "-x", .int 1]),
      ("verbose", .bool true), ("_verbose", .bool true), ("timeout", .bool true),
      ("shellcheck_arguments", .arr [.str "-x", .str ""])]
    ofEntries entries = .ok start ∧
      (∃ config, LinterConfig.ofEntries ((start.after history).configEntries (some "/a/./b")) =
          .ok config ∧
        config.executable = none ∧ config.arguments = ["-x", ""] ∧
          config.timeout = some (Binary64.ofInt 1)) ∧
      start.after (history ++ [("timeout", .str " nan ")]) = start.after history ∧
      start.after (history ++ [("timeout", .str " inf ")]) =
        ⟨none, ["-x", ""], some (Binary64.infinity false)⟩ := by
  intro entries start history
  have built : ofEntries entries = .ok start := by decide +kernel
  have reached : start.after history = ⟨none, ["-x", ""], some (Binary64.ofInt 1)⟩ := by
    decide +kernel
  obtain ⟨-, accepted, further⟩ := assignments_keep_settings_valid built history
  rw [reached] at accepted further
  refine ⟨built, ?_, ?_, ?_⟩
  · obtain ⟨config, checked, same⟩ := accepted (some "/a/./b")
    rw [reached]
    exact ⟨config, checked, same⟩
  · obtain ⟨-, refused, -, unchanged⟩ := further "timeout" (.str " nan ")
    rw [reached]
    exact unchanged (refused.1 ⟨[⟨[.key "timeout"], .atLeastZero⟩], by decide +kernel⟩)
  · obtain ⟨assigned, -, changed, -⟩ := further "timeout" (.str " inf ")
    exact changed _ ((assigned _).1 (by decide +kernel))

end Settings

end LintBridge
