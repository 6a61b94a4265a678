import LintBridge.Proofs.CommandLine.Loading
import LintBridge.Proofs.CommandLine.Reports
import LintBridge.Proofs.Linter.Raising
import LintBridge.Proofs.Linter.Rounds

/-!
# How the command ends

The code that the command ends with and what it prints depend on the settings, the files and the
answer for each document alone. In which order the calls end, and so whether a call is still started
after another one has found the executable missing, makes no difference: what is left of any
complete schedule is concluded in the same way (`ends_of_schedule`), and the command is one of them.
-/
set_option autoImplicit false

namespace LintBridge.CommandLine

/-! ## What a command depends on -/

/-- An environment and a command line that lead to the name of an executable. -/
def IsConfigured (env : Environment) (o : CheckOptions) : Prop :=
  ∃ settings name, Settings.ofEnvironment env = .ok settings ∧ name ≠ "" ∧
    (o.executable = some name ∨ o.executable = none ∧ settings.executable = some name)

/-- Some document whose call would find the executable missing. -/
def IsLost (documents : List (Path × Document)) (answers : Nat → Answer) : Prop :=
  ∃ i entry, documents[i]? = some entry ∧ entry.2.isSupported = true ∧
    Answer.isUnavailable (answers i) = true

/-- Some path from which no document can be loaded. -/
def IsUnread (fs : FileSystem) (paths : List Path) : Prop :=
  ∃ p ∈ paths, ∀ d, Document.load fs p ≠ .ok d

/-- Reports that are asked for as JSON and hold an integer with too many digits. -/
def IsUnprintable (format : OutputFormat) (documents : List (Path × Document))
    (answers : Nat → Answer) : Prop :=
  format = .json ∧ ∃ c, AcceptsComment documents answers c ∧ c.IsExtreme

/-- A runner that has one answer for each supported document, after any number of rounds. -/
def Answers (runner : Runner) (documents : List (Path × Document)) (answers : Nat → Answer) :
    Prop :=
  ∀ i entry invocation, documents[i]? = some entry → entry.2.isSupported = true →
    (runner ((documents.take i).countP fun e => e.2.isSupported) invocation).answer = answers i

/-- The code and the output of a command. -/
def ended (outcome : Except CheckFault Finish) : Except CheckFault (Nat × String) :=
  outcome.map fun finish => (finish.code, finish.output)

/-- How a command ends that has linted some documents: with reports that are printed unless an
integer in them has too many digits, and with a code that tells whether a path is unread or else a
comment blocks. -/
structure Ends (format : OutputFormat) (documents : List (Path × Document))
    (answers : Nat → Answer) (isUnread : Prop) (result : Except CheckFault (Nat × String)) :
    Prop where
  lost : IsLost documents answers → result = .ok (2, "")
  unprintable : ¬ IsLost documents answers → IsUnprintable format documents answers →
    result = .error (.write .integerTooLong)
  printed : ¬ IsLost documents answers → ¬ IsUnprintable format documents answers →
    ∃ reports code text, Reported documents answers reports ∧
      FileReport.render format reports = .ok text ∧ result = .ok (code, text) ∧
      (code = 2 ↔ isUnread) ∧
      (code = 1 ↔ ¬ isUnread ∧ ∃ c, AcceptsComment documents answers c ∧ c.IsBlocking) ∧
      (code = 0 ↔ ¬ isUnread ∧ ¬ ∃ c, AcceptsComment documents answers c ∧ c.IsBlocking)

/-! ## Documents that were loaded -/

section

variable {fs : FileSystem} {l : Linter} {folders : List WorkspaceFolder}
  {documents : List (Path × Document)} {answers : Nat → Answer}

/-- A supported document that was loaded has a command to run, and any other is left alone. -/
theorem prepare_of_load (on : l.isOn = true) (enabled : l.config.isEnabled = true) {p : Path}
    {d : Document} (loaded : Document.load fs p = .ok d)
    (loadedFolders : ∀ f ∈ folders, ∃ q, WorkspaceFolder.load fs q none = .ok f) :
    (d.isSupported = false ∧ l.prepare fs d folders = .nothing) ∨
      (d.isSupported = true ∧ ∃ i debug, l.prepare fs d folders = .run i debug) := by
  rcases l.prepare_cases fs d folders with
    ⟨idle, prepared⟩ | ⟨-, fault, fails, -⟩ | ⟨attempts, -, i, debug, -, prepared⟩
  · refine Or.inl ⟨Bool.eq_false_iff.2 fun supported => idle ⟨on, enabled, supported⟩, prepared⟩
  · exact absurd fails (SourceSearch.not_fails_of_load loaded loadedFolders _ fault)
  · exact Or.inr ⟨attempts.known, i, debug, prepared⟩

def requestsFor (documents : List (Path × Document)) (folders : List WorkspaceFolder) :
    List LintRequest :=
  documents.map fun e => LintRequest.mk e.2 folders

/-- Documents and folders that were loaded, and a linter that is on. -/
structure Prepared (fs : FileSystem) (l : Linter) (documents : List (Path × Document))
    (folders : List WorkspaceFolder) : Prop where
  on : l.isOn = true
  enabled : l.config.isEnabled = true
  loaded : ∀ e ∈ documents, Document.load fs e.1 = .ok e.2
  loadedFolders : ∀ f ∈ folders, ∃ q, WorkspaceFolder.load fs q none = .ok f

theorem getElem?_requestsFor {i : Nat} {e : Path × Document} (listed : documents[i]? = some e)
    (folders : List WorkspaceFolder) :
    (requestsFor documents folders)[i]? = some ⟨e.2, folders⟩ := by
  rw [requestsFor, List.getElem?_map, listed, Option.map_some]

theorem getElem?_requestsFor_eq_some_iff {i : Nat} {r : LintRequest} :
    (requestsFor documents folders)[i]? = some r ↔
      ∃ e, documents[i]? = some e ∧ r = ⟨e.2, folders⟩ := by
  rw [requestsFor, List.getElem?_map, Option.map_eq_some_iff]
  exact exists_congr fun e => and_congr_right fun _ => eq_comm

theorem Prepared.prepare_cases (prepared : Prepared fs l documents folders)
    {e : Path × Document} (member : e ∈ documents) :
    (e.2.isSupported = false ∧ l.prepare fs e.2 folders = .nothing) ∨
      (e.2.isSupported = true ∧ ∃ i debug, l.prepare fs e.2 folders = .run i debug) :=
  prepare_of_load prepared.on prepared.enabled (prepared.loaded e member) prepared.loadedFolders

theorem Prepared.isRun_iff (prepared : Prepared fs l documents folders) {e : Path × Document}
    (member : e ∈ documents) :
    (l.prepare fs e.2 folders).IsRun ↔ e.2.isSupported = true := by
  rcases prepared.prepare_cases member with ⟨plain, idle⟩ | ⟨supported, i, debug, ready⟩
  · rw [idle, plain]
    exact ⟨fun ⟨_, _, same⟩ => (by cases same), fun same => (by cases same)⟩
  · exact ⟨fun _ => supported, fun _ => ⟨i, debug, ready⟩⟩

theorem Prepared.sound (prepared : Prepared fs l documents folders) :
    ∀ r ∈ requestsFor documents folders, ∀ fault,
      l.prepare fs r.document r.folders ≠ .failed fault := by
  intro r asked fault
  obtain ⟨e, member, rfl⟩ := List.mem_map.1 asked
  rcases prepared.prepare_cases member with ⟨-, idle⟩ | ⟨-, i, debug, ready⟩
  · simp [idle]
  · simp [ready]

theorem Prepared.callOutcome_eq (prepared : Prepared fs l documents folders)
    {e : Path × Document} (member : e ∈ documents) (a : Answer) :
    l.callOutcome fs ⟨e.2, folders⟩ a = e.2.outcome a := by
  rcases prepared.prepare_cases member with ⟨plain, idle⟩ | ⟨supported, i, debug, ready⟩
  · simp [Linter.callOutcome, idle, Document.outcome, plain]
  · simp [Linter.callOutcome, ready, Document.outcome, supported]

theorem Prepared.misses_iff (prepared : Prepared fs l documents folders) :
    (∃ call, Session.Misses fs (requestsFor documents folders) answers l call) ↔
      IsLost documents answers := by
  constructor
  · rintro ⟨call, ⟨r, asked, runs⟩, missing⟩
    obtain ⟨e, listed, rfl⟩ := getElem?_requestsFor_eq_some_iff.1 asked
    exact ⟨call, e, listed, (prepared.isRun_iff (List.mem_of_getElem? listed)).1 runs, missing⟩
  · rintro ⟨i, e, listed, supported, missing⟩
    have runs := (prepared.isRun_iff (List.mem_of_getElem? listed)).2 supported
    exact ⟨i, ⟨_, getElem?_requestsFor listed folders, runs⟩, missing⟩

theorem Prepared.rank_eq (prepared : Prepared fs l documents folders) (call : Nat) :
    Session.rank fs (requestsFor documents folders) l call =
      (documents.take call).countP fun e => e.2.isSupported := by
  rw [Session.rank, requestsFor, ← List.map_take, List.countP_map]
  apply List.countP_congr
  intro e member
  rw [Function.comp_apply, decide_eq_true_iff]
  exact prepared.isRun_iff (List.mem_of_mem_take member)

theorem Prepared.assigns (prepared : Prepared fs l documents folders) {runner : Runner}
    (assigned : Answers runner documents answers) :
    runner.Assigns fs (requestsFor documents folders) l answers := by
  intro call r i debug asked ready
  obtain ⟨e, listed, rfl⟩ := getElem?_requestsFor_eq_some_iff.1 asked
  rw [prepared.rank_eq]
  exact assigned call e i listed
    ((prepared.isRun_iff (List.mem_of_getElem? listed)).1 ⟨i, debug, ready⟩)

end

/-! ## What is left of a schedule -/

section

variable {w : Surroundings} {o : CheckOptions} {p : Preferences} {loaded : Loaded} {t : Transcript}
  {s : Session}

theorem faultOfSession?_eq_none (clean : ∀ entry ∈ s.finished, ∃ ds, entry.2 = .ok ds) :
    faultOfSession? s = none := by
  rw [faultOfSession?, List.findSome?_eq_none_iff]
  rintro ⟨call, outcome⟩ member
  obtain ⟨ds, rfl⟩ := clean _ member
  rfl

theorem ended_of_off (clean : ∀ entry ∈ s.finished, ∃ ds, entry.2 = .ok ds)
    (off : s.linter.isOn = false) : ended (conclude w o p loaded t s) = .ok (2, "") := by
  rw [conclude, faultOfSession?_eq_none clean, off]
  rfl

theorem ended_of_unprintable (clean : ∀ entry ∈ s.finished, ∃ ds, entry.2 = .ok ds)
    (on : s.linter.isOn = true) {e : Json.WriteError}
    (failed : FileReport.render o.format (reportsOf s loaded.documents) = .error e) :
    ended (conclude w o p loaded t s) = .error (.write e) := by
  simp only [conclude, faultOfSession?_eq_none clean, on, failed]
  rfl

theorem ended_of_printed (clean : ∀ entry ∈ s.finished, ∃ ds, entry.2 = .ok ds)
    (on : s.linter.isOn = true) {text : String}
    (printed : FileReport.render o.format (reportsOf s loaded.documents) = .ok text) :
    ended (conclude w o p loaded t s) =
      .ok (codeOf (reportsOf s loaded.documents) (!loaded.unreadable.isEmpty), text) := by
  simp only [conclude, faultOfSession?_eq_none clean, on, printed]
  rfl

theorem codeOf_iff (reports : List FileReport) (isIncomplete : Bool) :
    (codeOf reports isIncomplete = 2 ↔ isIncomplete = true) ∧
      (codeOf reports isIncomplete = 1 ↔
        ¬ isIncomplete = true ∧ FileReport.anyBlocking reports = true) ∧
      (codeOf reports isIncomplete = 0 ↔
        ¬ isIncomplete = true ∧ ¬ FileReport.anyBlocking reports = true) := by
  unfold codeOf
  cases isIncomplete <;> cases FileReport.anyBlocking reports <;> decide

/-- Whatever the order in which the calls for some documents start and end, the command ends as
their answers say. -/
theorem ends_of_schedule {l : Linter} {documents : List (Path × Document)}
    {folders : List WorkspaceFolder} {answers : Nat → Answer} {calls : List Nat}
    (prepared : Prepared w.files l documents folders) (usual : ∀ i, (answers i).IsUsual)
    (schedule : Session.Schedule w.files (requestsFor documents folders) answers l calls s)
    (completes : Session.Completes (requestsFor documents folders) calls s)
    (unreadable : List (Path × LoadFault)) (p : Preferences) (t : Transcript) :
    Ends o.format documents answers (unreadable.isEmpty = false)
      (ended (conclude w o p ⟨documents, unreadable⟩ t s)) := by
  have accounts := schedule.accounts prepared.on prepared.sound fun i => (usual i).exists_outcome
  have isOn_iff := accounts.isOn_iff completes
  rw [prepared.misses_iff] at isOn_iff
  have reported (on : s.linter.isOn = true) :
      Reported documents answers (reportsOf s documents) := by
    apply reported_of_outcomes
    intro i entry listed
    rw [accounts.outcome?_eq completes on (getElem?_requestsFor listed folders),
      prepared.callOutcome_eq (List.mem_of_getElem? listed)]
  refine ⟨fun lost => ?_, fun kept unprintable => ?_, fun kept printable => ?_⟩
  · exact ended_of_off accounts.ended (Bool.eq_false_iff.2 fun on => isOn_iff.1 on lost)
  · have on := isOn_iff.2 kept
    exact ended_of_unprintable accounts.ended on
      (((reported on).render_eq_error_iff _ _).2 ⟨rfl, unprintable⟩)
  · have on := isOn_iff.2 kept
    cases rendered : FileReport.render o.format (reportsOf s documents) with
    | error e =>
        exact absurd (((reported on).render_eq_error_iff _ _).1 rendered).2 printable
    | ok text =>
        obtain ⟨two, one, zero⟩ := codeOf_iff (reportsOf s documents) (!unreadable.isEmpty)
        rw [Bool.not_eq_true'] at two one zero
        rw [(reported on).anyBlocking_iff] at one zero
        exact ⟨_, _, text, reported on, rendered, ended_of_printed accounts.ended on rendered, two,
          one, zero⟩

end

/-! ## The command -/

theorem isOn_iff_isConfigured {env : Environment} {settings : Settings}
    (accepted : Settings.ofEnvironment env = .ok settings) (o : CheckOptions) (cwd : Option Path) :
    (Linter.ofConfig ((withExecutable settings o.executable).toConfig cwd)).isOn = true ↔
      IsConfigured env o := by
  rw [Linter.ofConfig, LinterConfig.isEnabled_iff, IsConfigured, accepted]
  simp only [Settings.toConfig, Except.ok.injEq, exists_and_left, exists_eq_left']
  cases given : o.executable with
  | none => simp [withExecutable, and_comm]
  | some name =>
      by_cases empty : name = ""
      · simp [withExecutable, empty]
      · simp [withExecutable, empty]

theorem mapM_resolve_eq_ok {fs : FileSystem} {path : Option Path}
    (resolves : ∀ p, path = some p → ∃ q, fs.resolve p = .ok q) :
    ∃ resolved, path.mapM fs.resolve = .ok resolved := by
  cases path with
  | none => exact ⟨none, rfl⟩
  | some p =>
      obtain ⟨q, found⟩ := resolves p rfl
      refine ⟨some q, ?_⟩
      rw [Option.mapM_some, found]
      rfl

end LintBridge.CommandLine
