import LintBridge.Proofs.Command.Executable

/-!
# Why a command is refused

A command that starts with the absolute path of a file that can be executed has a child unless its
directory or its arguments are refused (`exists_child_of_not_refuses`). A directory that is missing
and a NUL character in the arguments are told as what they are. A directory that exists but must not
be entered and arguments that are too long are not: for these the executable is said to be missing,
which is as good as before (`outcome_eq_unavailable_iff`).
-/
set_option autoImplicit false

namespace LintBridge

namespace Command

/-- The file at a path can be executed if at most some number of files are tried: it is a utility,
or it names an interpreter that can be executed. -/
inductive CanExecute (fs : FileSystem) : Nat → String → Prop where
  | utility {tries : Nat} {path name : String} (found : fs.statText path = .ok (.utility name)) :
      CanExecute fs (tries + 1) path
  | script {tries : Nat} {path interpreter : String} {readable : Bool} {content : List UInt8}
      {argument : Option String} (found : fs.statText path = .ok (.file readable true content))
      (named : interpreter? content = some (interpreter, argument))
      (runs : CanExecute fs tries interpreter) : CanExecute fs (tries + 1) path

/-- The system is asked for a child: the directory exists, and no text holds a NUL character. -/
structure IsAsked (host : Host) (path : String) (arguments : List String) (cwd : Option Path) :
    Prop where
  exists' : ∀ directory, cwd = some directory → host.files.isDirectory directory = .ok true
  nulFree : ∀ text ∈ path :: arguments, '\x00' ∉ text.toList

/-- What the executable at a path is blamed for when a child is asked for, and has no part in. -/
inductive Blames (host : Host) (path : String) (arguments : List String) :
    Option Path → FileFault → Prop where
  | directory (cwd : Path) (asked : IsAsked host path arguments (some cwd))
      (closed : host.files.stat cwd = .ok (.directory false)) :
      Blames host path arguments (some cwd) .denied
  | arguments (cwd : Option Path) (inside : FileSystem) (asked : IsAsked host path arguments cwd)
      (entered : enter host.files cwd = .ok inside)
      (long : isTooLong (path :: arguments) = true) :
      Blames host path arguments cwd .argumentsTooLong

/-- What a command is refused for whose word leads to an executable at a path. -/
inductive Refuses (host : Host) (word path : String) (arguments : List String) :
    Option Path → RunFault → Prop where
  | missing (cwd : Path) (absent : host.files.isDirectory cwd = .ok false) :
      Refuses host word path arguments (some cwd) (.workingDirectory cwd)
  | unknown (cwd : Path) (fault : FileFault) (open' : host.files.isDirectory cwd = .error fault) :
      Refuses host word path arguments (some cwd) (.probe fault cwd)
  | nul (cwd : Option Path) (checked : checkDirectory host cwd = .ok cwd) (text : String)
      (member : text ∈ path :: arguments) (holds : '\x00' ∈ text.toList) :
      Refuses host word path arguments cwd (.invalid "embedded null byte")
  | blamed (cwd : Option Path) (fault : FileFault) (blames : Blames host path arguments cwd fault) :
      Refuses host word path arguments cwd (.unavailable word fault.reason)

section

variable {host : Host} {word path : String} {arguments : List String} {cwd : Option Path}

/-! ## Files that can be executed -/

theorem exists_load_iff (fs : FileSystem) (tries : Nat) (path called : String)
    (arguments : List String) :
    (∃ loaded, load fs path called arguments tries = .ok loaded) ↔ CanExecute fs tries path := by
  induction tries generalizing path called arguments with
  | zero =>
      constructor
      · rintro ⟨loaded, succeeds⟩
        cases succeeds
      · rintro ⟨⟩
  | succ tries ih =>
      rw [load]
      constructor
      · rintro ⟨loaded, succeeds⟩
        split at succeeds
        · cases succeeds
        · rename_i name found
          exact .utility found
        · rename_i readable content found
          split at succeeds
          · cases succeeds
          · rename_i interpreter argument named
            exact .script found named ((ih ..).1 ⟨loaded, succeeds⟩)
        · cases succeeds
      · intro executes
        cases executes with
        | utility found => exact ⟨_, by rw [found]⟩
        | script found named runs =>
            simp only [found, named]
            exact (ih ..).2 runs

/-- A utility under an absolute path can be executed from every directory. -/
theorem canExecute_of_utility {fs : FileSystem} {name : String}
    (fromRoot : FileSystem.startsAtRoot path = true)
    (found : fs.statText path = .ok (.utility name)) (here : List String) (tries : Nat) :
    CanExecute (fs.seenFrom here) (tries + 1) path := by
  have seen : (fs.seenFrom here).statText path = .ok (.utility name) := by
    rw [FileSystem.statText, FileSystem.locateText_seenFrom_of_root fs here fromRoot]
    exact found
  exact .utility seen

/-! ## The directory -/

theorem checkDirectory_of_exists (exists' : ∀ directory, cwd = some directory →
    host.files.isDirectory directory = .ok true) : checkDirectory host cwd = .ok cwd := by
  cases cwd with
  | none => rfl
  | some directory => simp only [checkDirectory, exists' directory rfl]

theorem IsAsked.checked (asked : IsAsked host path arguments cwd) :
    checkDirectory host cwd = .ok cwd := checkDirectory_of_exists asked.exists'

theorem Blames.asked {fault : FileFault} (blames : Blames host path arguments cwd fault) :
    IsAsked host path arguments cwd := by
  cases blames <;> assumption

theorem enter_of_stat {fs : FileSystem} {directory : Path} {enterable : Bool}
    (found : fs.stat directory = .ok (.directory enterable)) :
    ∃ here, enter fs (some directory) =
      if enterable then .ok (fs.seenFrom here) else .error .denied := by
  obtain ⟨here, located, node⟩ := FileSystem.exists_names_of_stat found
  refine ⟨here, ?_⟩
  simp only [enter, located, node]
  cases enterable <;> rfl

/-- A directory that exists is entered unless it is closed. -/
theorem enter_cases (exists' : ∀ directory, cwd = some directory →
    host.files.isDirectory directory = .ok true) :
    (∃ inside, enter host.files cwd = .ok inside) ∨
      ∃ directory, cwd = some directory ∧ host.files.stat directory = .ok (.directory false) ∧
        enter host.files cwd = .error .denied := by
  cases cwd with
  | none => exact Or.inl ⟨host.files, rfl⟩
  | some directory =>
      obtain ⟨-, enterable, found⟩ :=
        FileSystem.isDirectory_eq_true_iff.1 (exists' directory rfl)
      obtain ⟨here, entered⟩ := enter_of_stat found
      cases enterable with
      | true => exact Or.inl ⟨_, entered⟩
      | false => exact Or.inr ⟨directory, rfl, found, entered⟩

/-! ## The child -/

theorem any_nul_iff {texts : List String} :
    (texts.any fun text => text.toList.contains '\x00') = true ↔
      ∃ text ∈ texts, '\x00' ∈ text.toList := by
  simp [List.any_eq_true]

theorem IsAsked.no_nul (asked : IsAsked host path arguments cwd) :
    ((path :: arguments).any fun text => text.toList.contains '\x00') = false := by
  rw [← Bool.not_eq_true, any_nul_iff]
  rintro ⟨text, member, holds⟩
  exact asked.nulFree text member holds

/-- A child is refused for whatever the executable is blamed for. -/
theorem spawn_of_blames {fault : FileFault} (blames : Blames host path arguments cwd fault) :
    ∃ refusal, spawn host path arguments cwd = .error refusal ∧
      ∀ word, refusal.toRunFault word = .unavailable word fault.reason := by
  cases blames with
  | directory directory asked closed =>
      obtain ⟨here, entered⟩ := enter_of_stat closed
      refine ⟨.directory .denied, ?_, fun word => rfl⟩
      simp only [spawn, asked.no_nul, entered, Bool.false_eq_true, if_false]
  | arguments _ inside asked entered long =>
      refine ⟨.arguments .argumentsTooLong, ?_, fun word => rfl⟩
      simp only [spawn, asked.no_nul, entered, long, Bool.false_eq_true, if_false, if_true]

/-- A child that is asked for is started unless the executable is blamed. -/
theorem exists_spawn (slash : hasDirectory path = true)
    (good : ∀ here, CanExecute (host.files.seenFrom here) maxInterpreters path)
    (asked : IsAsked host path arguments cwd)
    (blameless : ∀ fault, ¬ Blames host path arguments cwd fault) :
    ∃ child, spawn host path arguments cwd = .ok child := by
  rcases enter_cases asked.exists' with ⟨inside, entered⟩ | ⟨directory, rfl, closed, -⟩
  · cases long : isTooLong (path :: arguments) with
    | true => exact absurd (.arguments cwd inside asked entered long) (blameless _)
    | false =>
        obtain ⟨here, rfl, -⟩ := enter_eq_ok entered
        obtain ⟨⟨utility, called, arguments'⟩, loads⟩ :=
          (exists_load_iff _ maxInterpreters path path arguments).2 (good here)
        have only := candidates_of_directory slash host.searchPath
        refine ⟨⟨utility, called, arguments', host.files.seenFrom here⟩, ?_⟩
        simp only [spawn, asked.no_nul, entered, long, only, loadFirst, loads, Bool.false_eq_true,
          if_false]
  · exact absurd (.directory directory asked closed) (blameless _)

/-! ## The command -/

theorem locate_of_startsAtRoot (absolute : FileSystem.startsAtRoot word = true) :
    locate host word = .ok (Path.ofString word).toString := by
  rw [locate, isAbsolute_ofString, if_pos absolute]

theorem hasDirectory_toString_ofString (absolute : FileSystem.startsAtRoot word = true) :
    hasDirectory (Path.ofString word).toString = true := by
  apply hasDirectory_of_startsAtRoot
  apply startsAtRoot_toString
  rw [isAbsolute_ofString, absolute]

/-- A run before whose child is started there is only the directory to check. -/
theorem run_of_locate {i : Invocation} {executable : String}
    (given : i.command = word :: arguments) (located : locate host word = .ok executable)
    (cancelAfter : Option Binary64) :
    run host i cancelAfter =
      match checkDirectory host i.cwd with
      | .error fault => ⟨.error fault, 0⟩
      | .ok cwd =>
        match spawn host executable arguments cwd with
        | .error refusal => ⟨.error (refusal.toRunFault word), 0⟩
        | .ok child =>
          watch child (executable :: arguments) (i.input.getD "") i.timeout cancelAfter := by
  simp only [run, given, locateCommand, located, Except.map, bind, Except.bind, List.headD_cons]
  cases checkDirectory host i.cwd with
  | error fault => rfl
  | ok cwd =>
      cases started : spawn host executable arguments cwd with
      | error refusal => simp only [started]
      | ok child => simp only [started]

theorem run_of_refuses {i : Invocation} (given : i.command = word :: arguments)
    (absolute : FileSystem.startsAtRoot word = true) (within : i.cwd = cwd) {fault : RunFault}
    (refuses : Refuses host word (Path.ofString word).toString arguments cwd fault)
    (cancelAfter : Option Binary64) : run host i cancelAfter = ⟨.error fault, 0⟩ := by
  rw [run_of_locate given (locate_of_startsAtRoot absolute), within]
  cases refuses with
  | missing directory absent => simp only [checkDirectory, absent]
  | unknown directory fault open' => simp only [checkDirectory, open']
  | nul _ checked text member holds =>
      have refused := any_nul_iff.2 ⟨text, member, holds⟩
      simp only [checked, spawn, refused, if_true, SpawnFault.toRunFault]
  | blamed _ fault blames =>
      obtain ⟨refusal, refused, told⟩ := spawn_of_blames blames
      simp only [blames.asked.checked, refused, told]

/-- A command that is not refused has a child. -/
theorem exists_child_of_not_refuses {i : Invocation} (given : i.command = word :: arguments)
    (absolute : FileSystem.startsAtRoot word = true)
    (good : ∀ here,
      CanExecute (host.files.seenFrom here) maxInterpreters (Path.ofString word).toString)
    (allowed : ∀ fault, ¬ Refuses host word (Path.ofString word).toString arguments i.cwd fault) :
    ∃ child, spawn host (Path.ofString word).toString arguments i.cwd = .ok child ∧
      ∀ cancelAfter, run host i cancelAfter =
        watch child ((Path.ofString word).toString :: arguments) (i.input.getD "") i.timeout
          cancelAfter := by
  have exists' : ∀ directory, i.cwd = some directory →
      host.files.isDirectory directory = .ok true := by
    intro directory within
    rw [within] at allowed
    cases probed : host.files.isDirectory directory with
    | error fault => exact absurd (.unknown directory fault probed) (allowed _)
    | ok answer =>
        cases answer with
        | false => exact absurd (.missing directory probed) (allowed _)
        | true => rfl
  have checked := checkDirectory_of_exists exists'
  have nulFree : ∀ text ∈ (Path.ofString word).toString :: arguments, '\x00' ∉ text.toList :=
    fun text member holds => allowed _ (.nul i.cwd checked text member holds)
  obtain ⟨child, started⟩ := exists_spawn (hasDirectory_toString_ofString absolute) good
    ⟨exists', nulFree⟩ fun fault blames => allowed _ (.blamed i.cwd fault blames)
  exact ⟨child, started,
    run_of_spawn given (locate_of_startsAtRoot absolute) checked started⟩

theorem outcomeOf_ne_unavailable (command : List String) (limit : Timeout) (b : Behaviour)
    (ending : Option Ending) (name reason : String) :
    outcomeOf command limit b ending ≠ .error (.unavailable name reason) := by
  unfold outcomeOf
  split <;> simp

/-- An executable that is good is said to be missing exactly if it is blamed. -/
theorem outcome_eq_unavailable_iff {i : Invocation} (given : i.command = word :: arguments)
    (absolute : FileSystem.startsAtRoot word = true)
    (good : ∀ here,
      CanExecute (host.files.seenFrom here) maxInterpreters (Path.ofString word).toString)
    (cancelAfter : Option Binary64) (name reason : String) :
    (run host i cancelAfter).outcome = .error (.unavailable name reason) ↔
      name = word ∧ ∃ fault,
        Blames host (Path.ofString word).toString arguments i.cwd fault ∧
          reason = fault.reason := by
  constructor
  · intro failed
    by_cases refused : ∃ fault,
        Refuses host word (Path.ofString word).toString arguments i.cwd fault
    · obtain ⟨fault, refuses⟩ := refused
      rw [run_of_refuses given absolute rfl refuses] at failed
      obtain rfl := Except.error.inj failed
      generalize i.cwd = cwd at refuses
      cases refuses with
      | blamed _ fault blames => exact ⟨rfl, fault, blames, rfl⟩
    · obtain ⟨child, -, watched⟩ := exists_child_of_not_refuses given absolute good
        fun fault refuses => refused ⟨fault, refuses⟩
      rw [watched, watch] at failed
      exact (outcomeOf_ne_unavailable _ _ _ _ _ _ failed).elim
  · rintro ⟨rfl, fault, blames, rfl⟩
    rw [run_of_refuses given absolute rfl (.blamed i.cwd fault blames)]

end

end Command

end LintBridge
