import LintBridge.Proofs.Command.Refusal
import LintBridge.Proofs.Linter.Isolation
import LintBridge.Proofs.Linter.Rounds

/-!
# Linting that is turned off for a good executable

A linter takes every word of a missing executable for the last one. So a document whose folders make
the arguments too long, and a directory that exists but must not be entered, turn linting off for
good although the executable is fine. They are the only ones that do
(`good_executable_is_missing_iff_blamed`).
-/
set_option autoImplicit false

namespace LintBridge

open Command (Host CanExecute Blames Refuses maxInterpreters)

namespace Session

section

variable {fs : FileSystem} {requests : List LintRequest} {l : Linter} {n : Nat}
  {told : List (Nat × Answer)} {s : Session} {host : Host} {word : String}

/-- A linter that is still on in the end has run the commands of all calls. -/
theorem Served.mem_runs {runner : Runner}
    (served : Served fs runner requests l requests.length told s) (stillOn : s.linter.isOn = true)
    {call : Nat} {r : LintRequest} (asked : requests[call]? = some r) {i : Invocation}
    {debug : LogEntry} (ready : l.prepare fs r.document r.folders = .run i debug) :
    (call, i) ∈ s.runs := by
  have opening : (requests.map (Opening.mk fs))[call]? = some ⟨fs, r⟩ := by
    rw [List.getElem?_map, asked, Option.map_some]
  have same {c : Opening} (asked' : (requests.map (Opening.mk fs))[call]? = some c)
      {i' : Invocation} {debug' : LogEntry} (ready' : l.taskOf c = .run i' debug') : i = i' := by
    obtain rfl := Option.some.inj (opening.symm.trans asked')
    have task := ready.symm.trans ready'
    cases task
    rfl
  cases served.batch.standing call with
  | ahead later fresh idle untold =>
      have before := (List.getElem?_eq_some_iff.1 asked).1
      omega
  | leftAlone before c asked' waits_not idle untold outcome =>
      obtain rfl := Option.some.inj (opening.symm.trans asked')
      exact absurd ⟨i, debug, ready⟩ (outcome stillOn).1
  | waiting before c asked' i' debug' ready' ran => exact (ran i).2 (same asked' ready')
  | ended before c asked' i' debug' ready' ran => exact (ran i).2 (same asked' ready')

/-- What is run was prepared for one of the requests. -/
theorem Served.exists_of_runs {runner : Runner} (served : Served fs runner requests l n told s)
    {e : Nat × Invocation} (ran : e ∈ s.runs) :
    ∃ r ∈ requests, ∃ debug, l.prepare fs r.document r.folders = .run e.2 debug := by
  obtain ⟨call, i⟩ := e
  obtain ⟨c, debug, asked, ready, -⟩ := served.batch.outcome?_of_runs ran
  obtain ⟨r, member, rfl⟩ := List.mem_map.1 (List.mem_of_getElem? asked)
  exact ⟨r, member, debug, ready⟩

/-- An answer says that a good executable is missing exactly if it is blamed. -/
theorem isUnavailable_iff_blames (named : l.config.executable = some word)
    (absolute : FileSystem.startsAtRoot word = true)
    (good : ∀ here,
      CanExecute (host.files.seenFrom here) maxInterpreters (Path.ofString word).toString)
    {r : LintRequest} {i : Invocation} {debug : LogEntry}
    (ready : l.prepare fs r.document r.folders = .run i debug) (m : Nat) :
    Answer.isUnavailable (Runner.ofHost host m i).answer = true ↔
      ∃ fault, Blames host (Path.ofString word).toString i.command.tail i.cwd fault := by
  obtain ⟨word', arguments, named', command⟩ := Linter.command_of_run ready
  obtain rfl := Option.some.inj (named.symm.trans named')
  have iff := Command.outcome_eq_unavailable_iff command absolute good none
  rw [command, List.tail_cons]
  constructor
  · intro missing
    obtain ⟨name, reason, failed⟩ := Answer.exists_of_isUnavailable missing
    obtain ⟨-, fault, blames, -⟩ := (iff name reason).1 failed
    exact ⟨fault, blames⟩
  · rintro ⟨fault, blames⟩
    have failed := (iff word fault.reason).2 ⟨rfl, fault, blames, rfl⟩
    simp only [Runner.ofHost, failed, Answer.isUnavailable]

/-- Linting together leaves the linter on exactly if the executable is blamed for no command. -/
theorem isOn_lintAll_iff (fs : FileSystem) (requests : List LintRequest)
    (named : l.config.executable = some word) (absolute : FileSystem.startsAtRoot word = true)
    (good : ∀ here,
      CanExecute (host.files.seenFrom here) maxInterpreters (Path.ofString word).toString) :
    (lintAll { linter := l } fs (Runner.ofHost host) requests).linter.isOn = true ↔
      l.isOn = true ∧ ∀ r ∈ requests, ∀ i debug,
        l.prepare fs r.document r.folders = .run i debug → ∀ fault,
          ¬ Blames host (Path.ofString word).toString i.command.tail i.cwd fault := by
  obtain ⟨⟨told, served⟩, none_waits⟩ := lintAll_served fs (Runner.ofHost host) requests l
  constructor
  · intro stillOn
    obtain ⟨on, found⟩ := served.batch.isOn_iff.1 stillOn
    refine ⟨on, fun r member i debug ready fault blames => ?_⟩
    obtain ⟨call, asked⟩ := List.mem_iff_getElem?.1 member
    obtain ⟨m, ran⟩ := List.mem_iff_getElem?.1 (served.mem_runs stillOn asked ready)
    have heard := found _ (served.told_of_run none_waits ran)
    rw [(isUnavailable_iff_blames named absolute good ready m).2 ⟨fault, blames⟩] at heard
    cases heard
  · rintro ⟨on, blameless⟩
    refine served.batch.isOn_iff.2 ⟨on, fun e heard => ?_⟩
    obtain ⟨m, i, ran, same⟩ := served.replied e heard
    obtain ⟨r, member, debug, ready⟩ := served.exists_of_runs (List.mem_of_getElem? ran)
    rw [same, ← Bool.not_eq_true, isUnavailable_iff_blames named absolute good ready m]
    rintro ⟨fault, blames⟩
    exact blameless r member i debug ready fault blames

/-- A command whose word is the absolute path of a file that can be executed from everywhere fares
as `Refuses` says: what is refused ends with the fault that is named there, and anything else has a
child. The executable is said to be missing exactly if it is blamed for a directory that must not be
entered or for arguments that are too long, and a linter of it is turned off exactly if that happens
to one of its commands. -/
theorem good_executable_is_missing_iff_blamed
    (absolute : FileSystem.startsAtRoot word = true)
    (good : ∀ here,
      CanExecute (host.files.seenFrom here) maxInterpreters (Path.ofString word).toString) :
    let path := (Path.ofString word).toString
    (∀ (i : Invocation) arguments cancelAfter, i.command = word :: arguments →
      let ran := Command.run host i cancelAfter
      (∀ fault, Refuses host word path arguments i.cwd fault → ran = ⟨.error fault, 0⟩) ∧
        ((∀ fault, ¬ Refuses host word path arguments i.cwd fault) → ∃ child,
          Command.spawn host path arguments i.cwd = .ok child ∧
            ran = Command.watch child (path :: arguments) (i.input.getD "") i.timeout
              cancelAfter) ∧
        ∀ name reason, ran.outcome = .error (.unavailable name reason) ↔
          name = word ∧ ∃ fault, Blames host path arguments i.cwd fault ∧
            reason = fault.reason) ∧
    ∀ (l : Linter) fs requests, l.config.executable = some word →
      ((lintAll { linter := l } fs (Runner.ofHost host) requests).linter.isOn = true ↔
        l.isOn = true ∧ ∀ r ∈ requests, ∀ i debug,
          l.prepare fs r.document r.folders = .run i debug → ∀ fault,
            ¬ Blames host path i.command.tail i.cwd fault) := by
  intro path
  constructor
  · intro i arguments cancelAfter given ran
    refine ⟨fun fault refuses => ?_, fun allowed => ?_, fun name reason => ?_⟩
    · exact Command.run_of_refuses given absolute rfl refuses cancelAfter
    · obtain ⟨child, started, watched⟩ :=
        Command.exists_child_of_not_refuses given absolute good allowed
      exact ⟨child, started, watched cancelAfter⟩
    · exact Command.outcome_eq_unavailable_iff given absolute good cancelAfter name reason
  · intro l fs requests named
    exact isOn_lintAll_iff fs requests named absolute good

/-- A text of some number of letters. -/
def letters (n : Nat) : String := String.ofList (List.replicate n 'a')

theorem utf8ByteSize_letters (n : Nat) : (letters n).utf8ByteSize = n := by
  unfold letters
  have one : (String.singleton 'a').utf8ByteSize = 1 := by decide
  induction n with
  | zero => rfl
  | succ n ih =>
      rw [List.replicate_succ, String.ofList_cons, String.utf8ByteSize_append, ih, one]
      omega

theorem nul_not_mem_letters (n : Nat) : '\x00' ∉ (letters n).toList := by
  simp [letters, List.mem_replicate]

/-- One argument of too many octets, or a directory that is shut, and a utility that could be run is
taken for a missing one. -/
theorem good_executable_is_missing_for_long_argument_and_shut_directory :
    let host : Host := ⟨⟨[(["tool"], .utility "true"), (["shut"], .directory false)], []⟩, ""⟩
    let l := Linter.ofConfig
      { executable := some "/tool", cwd := some (Path.ofNames .root ["shut"]) }
    let r : LintRequest := ⟨⟨"untitled:1", "echo a\n", "shellscript"⟩, []⟩
    FileSystem.startsAtRoot "/tool" = true ∧
      (∀ here, CanExecute (host.files.seenFrom here) maxInterpreters
        (Path.ofString "/tool").toString) ∧
      (Command.run host { command := ["/tool", letters 131072] } none).outcome =
        .error (.unavailable "/tool" "Argument list too long") ∧
      l.isOn = true ∧
      (lintAll { linter := l } host.files (Runner.ofHost host) [r]).linter.isOn = false := by
  intro host l r
  have path : (Path.ofString "/tool").toString = "/tool" := by decide +kernel
  have tool : host.files.stat (Path.ofString "/tool") = .ok (.utility "true") := by
    have entry : Path.ofString "/tool" = Path.ofNames .root ["tool"] := by decide +kernel
    rw [entry]
    exact FileSystem.stat_of_root_entry (by decide) (by decide) (by decide) rfl (by simp)
  have good : ∀ here, CanExecute (host.files.seenFrom here) maxInterpreters
      (Path.ofString "/tool").toString :=
    fun here => Command.canExecute_of_utility (by rw [path]; decide) tool here _
  have absolute : FileSystem.startsAtRoot "/tool" = true := by decide
  obtain ⟨runs, lints⟩ := good_executable_is_missing_iff_blamed absolute good
  have shut : host.files.stat (Path.ofNames .root ["shut"]) = .ok (.directory false) :=
    FileSystem.stat_of_root_entry (by decide) (by decide) (by decide) rfl (by simp)
  refine ⟨absolute, good, ?_, by decide, ?_⟩
  · -- the argument has one octet more than it may
    have long : Command.isTooLong ["/tool", letters 131072] = true := by
      simp [Command.isTooLong, Command.maxArgument, utf8ByteSize_letters]
    have asked : Command.IsAsked host "/tool" [letters 131072] none := by
      refine ⟨by simp, fun text member => ?_⟩
      rcases List.mem_cons.1 member with rfl | member
      · decide
      · rw [List.mem_singleton.1 member]
        exact nul_not_mem_letters _
    obtain ⟨-, -, missing⟩ := runs { command := ["/tool", letters 131072] } _ none rfl
    refine (missing "/tool" "Argument list too long").2 ⟨rfl, .argumentsTooLong, ?_, rfl⟩
    rw [path]
    exact .arguments none host.files asked rfl long
  · have attempts : l.Attempts r.document :=
      ⟨by decide +kernel, by decide +kernel, by decide +kernel⟩
    obtain ⟨word, dialect, named, known, ready⟩ :=
      Linter.prepare_of_attempts attempts host.files r.folders
    have bash : Dialect.argument? r.document.text = some "bash" := by decide +kernel
    obtain rfl := Option.some.inj (named : some "/tool" = some word)
    obtain rfl := Option.some.inj (bash.symm.trans known)
    rw [← Bool.not_eq_true, lints l host.files [r] rfl]
    rintro ⟨-, blameless⟩
    refine blameless r (List.mem_singleton_self r) _ _ ready .denied (.directory _ ⟨?_, ?_⟩ shut)
    · intro directory given
      rw [← Option.some.inj given, FileSystem.isDirectory, shut]
      rfl
    · rw [path]
      decide +kernel

end

end Session

end LintBridge
