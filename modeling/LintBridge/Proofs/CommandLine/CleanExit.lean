import LintBridge.Proofs.CommandLine.Verdict
import LintBridge.Proofs.Linter.Isolation

/-!
# What a clean end says

A command is refused, breaks down over a path, or lints what it has loaded (`check_cases`,
`checkWith_cases`). One that ends with zero has read every path, no call of it has broken off and
its linter is still on (`exists_endsCleanly`), so that every supported document was checked. What
the analyser answered was a report without a blocking comment, or a failure that is soft: one that
is logged and counts as no comments at all (`EndsCleanly.harmless_or_soft`).
-/
set_option autoImplicit false

namespace LintBridge

/-- An answer that holds a report without a blocking comment. -/
def Answer.IsHarmless (a : Answer) : Prop :=
  ∃ c r, a = .ok c ∧ Report.Holds c.output r ∧ ∀ comment ∈ r.comments, ¬ comment.IsBlocking

/-- An answer that is a failure of its call alone: the command took too long, had no directory to
run in or could not be one, or there is no report in its output. -/
inductive Answer.IsSoft : Answer → Prop where
  | timedOut (executable : String) (limit : Binary64) : IsSoft (.error (.timedOut executable limit))
  | workingDirectory (cwd : Path) : IsSoft (.error (.workingDirectory cwd))
  | invalid (message : String) : IsSoft (.error (.invalid message))
  | unusable (c : Completion) (short : ¬ Json.HasLongInteger c.output)
      (none : ∀ r, ¬ Report.Holds c.output r) : IsSoft (.ok c)

theorem Answer.cases_of_outcome {a : Answer} {ds : List Diagnostic}
    (ended : Answer.outcome a = .ok ds) (found : Answer.isUnavailable a = false) :
    (∃ c r, a = .ok c ∧ Report.Holds c.output r) ∨ a.IsSoft := by
  cases a with
  | ok c =>
      by_cases held : ∃ r, Report.Holds c.output r
      · obtain ⟨r, holds⟩ := held
        exact Or.inl ⟨c, r, rfl, holds⟩
      · have short : ¬ Json.HasLongInteger c.output := by
          rintro ⟨error, failed, limit⟩
          have broken := (Answer.outcome_ok_eq_error_iff c (.output (.text error))).2
            ⟨error, failed, limit, rfl⟩
          cases ended.symm.trans broken
        exact Or.inr (.unusable c short fun r holds => held ⟨r, holds⟩)
  | error fault =>
      cases fault with
      | unavailable executable reason => cases found
      | timedOut executable limit => exact Or.inr (.timedOut executable limit)
      | workingDirectory cwd => exact Or.inr (.workingDirectory cwd)
      | invalid message => exact Or.inr (.invalid message)
      | _ => cases ended

namespace CommandLine

section

variable {fs : FileSystem} {l : Linter} {folders : List WorkspaceFolder}
  {documents : List (Path × Document)}

theorem load_of_loadAll {paths : List Path} (loadedAll : loadAll fs paths = .ok ⟨documents, []⟩) :
    documents.map Prod.fst = paths ∧ ∀ e ∈ documents, Document.load fs e.1 = .ok e.2 := by
  induction paths generalizing documents with
  | nil =>
      simp only [loadAll, Except.ok.injEq, Loaded.mk.injEq] at loadedAll
      simp [← loadedAll.1]
  | cons p more ih =>
      rcases load_cases fs p with ⟨fault, unresolved⟩ | ⟨d, isRead⟩ | ⟨fault, fails⟩
      · rw [loadAll_cons_of_resolve unresolved] at loadedAll
        cases loadedAll
      · have loaded := Document.load_eq_ok_iff_isReadAs.2 isRead
        rw [loadAll_cons_of_load loaded] at loadedAll
        obtain ⟨⟨documents', unreadable⟩, others, same⟩ := Json.map_eq_ok loadedAll
        simp only [Loaded.mk.injEq] at same
        obtain ⟨rfl, rfl⟩ := same
        obtain ⟨paths, each⟩ := ih others
        exact ⟨by rw [List.map_cons, paths], List.forall_mem_cons.2 ⟨loaded, each⟩⟩
      · rw [loadAll_cons_of_readFails fails] at loadedAll
        obtain ⟨rest, -, same⟩ := Json.map_eq_ok loadedAll
        cases same

theorem load_of_loadFolders {paths : List Path} (opened : loadFolders fs paths = .ok folders) :
    ∀ f ∈ folders, ∃ q, WorkspaceFolder.load fs q none = .ok f := by
  intro f member
  obtain ⟨p, -, loaded⟩ := exists_left_of_forall₂ ((mapM_eq_ok_iff _ _ _).1 opened) member
  exact ⟨p, loaded⟩

/-- Selected elements and what is made of them, if something is made of just those. -/
theorem forall₂_filter_filterMap {α β : Type} {R : α → β → Prop} {p : α → Bool} {f : α → Option β}
    {xs : List α}
    (each : ∀ x ∈ xs, (p x = false ∧ f x = none) ∨ (p x = true ∧ ∃ y, f x = some y ∧ R x y)) :
    List.Forall₂ R (xs.filter p) (xs.filterMap f) := by
  induction xs with
  | nil => exact .nil
  | cons x more ih =>
      have later := ih fun x' member => each x' (List.mem_cons_of_mem _ member)
      rcases each x (List.mem_cons_self ..) with ⟨left, none⟩ | ⟨selected, y, made, related⟩
      · simp only [List.filter_cons, left, List.filterMap_cons, none]
        exact later
      · simp only [List.filter_cons, selected, List.filterMap_cons, made, if_true]
        exact .cons related later

/-- The commands that are run for some documents are those for the supported ones, in order, and
each reads the text of its document. -/
theorem Prepared.launches (prepared : Prepared fs l documents folders) :
    List.Forall₂ (fun (e : Path × Document) (launch : Invocation × LogEntry) =>
        launch.1.input = some e.2.text)
      (documents.filter fun e => e.2.isSupported)
      (documents.filterMap fun e => l.launch? ⟨fs, ⟨e.2, folders⟩⟩) := by
  apply forall₂_filter_filterMap
  intro e member
  rcases prepared.prepare_cases member with ⟨plain, idle⟩ | ⟨supported, i, debug, ready⟩
  · refine Or.inl ⟨plain, Linter.launch?_eq_none_iff.2 ?_⟩
    rintro ⟨i, debug, ready⟩
    cases idle.symm.trans ready
  · exact Or.inr ⟨supported, (i, debug), Linter.launch?_eq_some_iff.2 ready,
      Linter.input_of_run ready⟩

end

/-! ## Error output -/

/-- What a message of the command is on error output. -/
def statusLine (p : Preferences) (isTerminal : Bool) (status : Status) (message : String) :
    String :=
  (p.settings isTerminal).render (p.statusPieces status message)

/-- What an entry of the log is on error output, if it is written there. -/
def logLine (p : Preferences) (isTerminal : Bool) (entry : LogEntry) : String :=
  ((p.entryPieces? entry).map (p.settings isTerminal).render).getD ""

theorem statusLine_ne_empty (p : Preferences) (isTerminal : Bool) (status : Status)
    (message : String) : statusLine p isTerminal status message ≠ "" :=
  Console.render_ne_empty _ _

namespace Transcript

theorem text_status (t : Transcript) (p : Preferences) (isTerminal : Bool) (status : Status)
    (message : String) :
    (t.status p isTerminal status message).text =
      t.text ++ statusLine p isTerminal status message := by
  rw [statusLine, ← t.consoles.console_eq (p.settings isTerminal)]
  rfl

theorem text_log (t : Transcript) (p : Preferences) (isTerminal : Bool) (entry : LogEntry) :
    (t.log p isTerminal entry).text = t.text ++ logLine p isTerminal entry := by
  rw [log, ConsoleCache.log, logLine]
  cases p.entryPieces? entry with
  | none => simp
  | some pieces => simp [ConsoleCache.print, ConsoleCache.console_eq]

/-- What is written step by step is written one after the other. -/
theorem text_foldl {α : Type} {write : Transcript → α → Transcript} {line : α → String}
    (adds : ∀ t a, (write t a).text = t.text ++ line a) (items : List α) (t : Transcript) :
    (items.foldl write t).text = t.text ++ String.join (items.map line) := by
  induction items generalizing t with
  | nil => simp
  | cons a more ih =>
      rw [List.foldl_cons, ih, adds, List.map_cons, String.join_cons, String.append_assoc]

end Transcript

/-! ## The ways of a command -/

/-- A command is refused, breaks down over a path, or loads what it names with a linter that is
on. -/
theorem check_cases (w : Surroundings) (o : CheckOptions) :
    (∃ p message, check w o = refuse w p message) ∨ (∃ fault, check w o = breakDown fault) ∨
      ∃ p l, l.isOn = true ∧ l.config.isEnabled = true ∧ check w o = checkWith w o p l := by
  unfold check
  simp only
  split
  · exact Or.inl ⟨_, _, rfl⟩
  · split
    · exact Or.inr (Or.inl ⟨_, rfl⟩)
    · split
      · rename_i on
        exact Or.inr (Or.inr ⟨_, _, on, on, rfl⟩)
      · exact Or.inl ⟨_, _, rfl⟩

/-- What is concluded from is what comes of linting the documents together. -/
theorem checkWith_cases (w : Surroundings) (o : CheckOptions) (p : Preferences) (l : Linter) :
    (∃ fault, checkWith w o p l = breakDown fault) ∨
      ∃ loaded folders t s, loadAll w.files o.paths = .ok loaded ∧
        loadFolders w.files o.folders = .ok folders ∧
        s = Session.lintAll { linter := l } w.files w.runner
          (requestsFor loaded.documents folders) ∧
        checkWith w o p l = ⟨conclude w o p loaded t s, s.runs.map Prod.snd⟩ := by
  unfold checkWith
  split
  · exact Or.inl ⟨_, rfl⟩
  · rename_i loaded loadedAll
    split
    · exact Or.inl ⟨_, rfl⟩
    · rename_i folders opened
      exact Or.inr ⟨loaded, folders, _, _, loadedAll, opened, rfl, rfl⟩

/-- What a command says in the end when there is nothing else to say. -/
def praiseLine (w : Surroundings) (o : CheckOptions) (p : Preferences) (reports : List FileReport)
    (isIncomplete : Bool) : String :=
  if isPraised o.format reports isIncomplete then
    statusLine p w.isTerminal .success s!"No issues found in {reports.length} file(s)."
  else ""

theorem praiseLine_eq_or (w : Surroundings) (o : CheckOptions) (p : Preferences)
    (reports : List FileReport) (isIncomplete : Bool) :
    praiseLine w o p reports isIncomplete = "" ∨ codeOf reports isIncomplete = exitClean := by
  rw [praiseLine]
  split
  · rename_i praised
    simp only [isPraised, Bool.and_eq_true, decide_eq_true_eq] at praised
    exact .inr praised.1.1
  · exact .inl rfl

/-- What a command comes to that concludes: no call has broken off, and either the linter was turned
off on the way or the reports are printed. -/
theorem conclude_cases {w : Surroundings} {o : CheckOptions} {p : Preferences} {loaded : Loaded}
    {t : Transcript} {s : Session} {f : Finish} (ended : conclude w o p loaded t s = .ok f) :
    faultOfSession? s = none ∧
      (s.linter.isOn = false ∧ f = ⟨exitFailure, "", t.text⟩ ∨
        s.linter.isOn = true ∧ ∃ output,
          f = ⟨codeOf (reportsOf s loaded.documents) (!loaded.unreadable.isEmpty), output,
            t.text ++ praiseLine w o p (reportsOf s loaded.documents)
              (!loaded.unreadable.isEmpty)⟩) := by
  unfold conclude at ended
  split at ended
  · cases ended
  · rename_i unbroken
    split at ended
    · rename_i off
      exact ⟨unbroken, .inl ⟨by simpa using off, (Except.ok.inj ended).symm⟩⟩
    · rename_i on
      simp only at ended
      split at ended
      · cases ended
      · rename_i output printed
        refine ⟨unbroken, .inr ⟨by simpa using on, output, ?_⟩⟩
        rw [← Except.ok.inj ended, praiseLine]
        split
        · rw [Transcript.text_status]
        · rw [String.append_empty]

/-- A command that concludes cleanly has no call that broke off, a linter that is still on, no path
that is unread and no report that blocks. -/
theorem of_conclude_clean {w : Surroundings} {o : CheckOptions} {p : Preferences} {loaded : Loaded}
    {t : Transcript} {s : Session} {f : Finish} (ended : conclude w o p loaded t s = .ok f)
    (clean : f.code = exitClean) :
    faultOfSession? s = none ∧ s.linter.isOn = true ∧ loaded.unreadable = [] ∧
      FileReport.anyBlocking (reportsOf s loaded.documents) = false := by
  obtain ⟨unbroken, ⟨-, rfl⟩ | ⟨on, output, rfl⟩⟩ := conclude_cases ended
  · cases clean
  · obtain ⟨-, -, zero⟩ := codeOf_iff (reportsOf s loaded.documents) (!loaded.unreadable.isEmpty)
    obtain ⟨complete, quiet⟩ := zero.1 clean
    exact ⟨unbroken, on, by simpa using complete, by simpa using quiet⟩

/-- What a command that ends cleanly has done: all paths were read, the linter is on to the end, no
call has broken off and nothing that is reported blocks. -/
structure EndsCleanly (w : Surroundings) (o : CheckOptions) (l : Linter)
    (documents : List (Path × Document)) (folders : List WorkspaceFolder) (s : Session) : Prop where
  prepared : Prepared w.files l documents folders
  paths_eq : documents.map Prod.fst = o.paths
  session_eq : s = Session.lintAll { linter := l } w.files w.runner (requestsFor documents folders)
  runs_eq : (check w o).runs = s.runs.map Prod.snd
  on : s.linter.isOn = true
  unbroken : faultOfSession? s = none
  quiet : FileReport.anyBlocking (reportsOf s documents) = false

theorem exists_endsCleanly {w : Surroundings} {o : CheckOptions} {f : Finish}
    (ended : (check w o).outcome = .ok f) (clean : f.code = exitClean) :
    ∃ l documents folders s, EndsCleanly w o l documents folders s := by
  rcases check_cases w o with ⟨p, message, refused⟩ | ⟨fault, broken⟩ | ⟨p, l, on, enabled, same⟩
  · rw [refused] at ended
    obtain rfl := Except.ok.inj ended
    cases clean
  · rw [broken] at ended
    cases ended
  · rcases checkWith_cases w o p l with
      ⟨fault, broken⟩ | ⟨loaded, folders, t, s, loadedAll, opened, session_eq, concluded⟩
    · rw [same, broken] at ended
      cases ended
    · rw [same, concluded] at ended
      obtain ⟨unbroken, stillOn, complete, quiet⟩ := of_conclude_clean ended clean
      obtain ⟨documents, unreadable⟩ := loaded
      obtain rfl : unreadable = [] := complete
      obtain ⟨paths_eq, each⟩ := load_of_loadAll loadedAll
      exact ⟨l, documents, folders, s, ⟨on, enabled, each, load_of_loadFolders opened⟩, paths_eq,
        session_eq, by rw [same, concluded], stillOn, unbroken, quiet⟩

/-- A command whose last line says that nothing was found in some number of files. -/
def SaysNothingFound (w : Surroundings) (o : CheckOptions) (f : Finish) : Prop :=
  ∃ (p : Preferences) (loaded : Loaded) (t : Transcript) (s : Session) (count : Nat),
    conclude w o p loaded t s = .ok f ∧
      f.errors = (t.status p w.isTerminal .success s!"No issues found in {count} file(s).").text

/-- Nothing is said in the end unless the code is zero. -/
theorem SaysNothingFound.code_eq {w : Surroundings} {o : CheckOptions} {f : Finish}
    (said : SaysNothingFound w o f) : f.code = exitClean := by
  obtain ⟨p, loaded, t, s, count, ended, errors⟩ := said
  have added := statusLine_ne_empty p w.isTerminal .success s!"No issues found in {count} file(s)."
  rw [Transcript.text_status] at errors
  obtain ⟨-, ⟨-, rfl⟩ | ⟨-, output, rfl⟩⟩ := conclude_cases ended
  · exact absurd (by simpa using errors.symm) added
  · rcases praiseLine_eq_or w o p (reportsOf s loaded.documents) (!loaded.unreadable.isEmpty) with
      nothing | clean
    · exact absurd (by simpa [nothing] using errors.symm) added
    · exact clean

/-! ## What was answered -/

section

variable {w : Surroundings} {o : CheckOptions} {l : Linter} {documents : List (Path × Document)}
  {folders : List WorkspaceFolder} {s : Session} {told : List (Nat × Answer)}
  {answers : Nat → Answer}

theorem exists_ok_of_unbroken (unbroken : faultOfSession? s = none) {call : Nat}
    {outcome : LintOutcome} (ended : s.outcome? call = some outcome) :
    ∃ ds, outcome = .ok ds := by
  obtain ⟨before, after, split, -⟩ := List.lookup_eq_some_iff.1 ended
  rw [faultOfSession?, List.findSome?_eq_none_iff] at unbroken
  have each := unbroken (call, outcome) (by simp [split])
  cases outcome with
  | ok ds => exact ⟨ds, rfl⟩
  | error fault => cases each

/-- The calls that a command makes for its documents. -/
def openingsFor (fs : FileSystem) (documents : List (Path × Document))
    (folders : List WorkspaceFolder) : List Opening :=
  (requestsFor documents folders).map (Opening.mk fs)

theorem getElem?_openingsFor_eq_some_iff {fs : FileSystem} {call : Nat} {c : Opening} :
    (openingsFor fs documents folders)[call]? = some c ↔
      ∃ e, documents[call]? = some e ∧ c = ⟨fs, ⟨e.2, folders⟩⟩ := by
  rw [openingsFor, List.getElem?_map, Option.map_eq_some_iff]
  constructor
  · rintro ⟨r, asked, rfl⟩
    obtain ⟨e, listed, rfl⟩ := getElem?_requestsFor_eq_some_iff.1 asked
    exact ⟨e, listed, rfl⟩
  · rintro ⟨e, listed, rfl⟩
    exact ⟨_, getElem?_requestsFor listed folders, rfl⟩

theorem EndsCleanly.runs_forall₂ (ends : EndsCleanly w o l documents folders s)
    (fulfils : Session.Fulfils (openingsFor w.files documents folders) l answers told s) :
    List.Forall₂ (fun (e : Path × Document) (i : Invocation) => i.input = some e.2.text)
      (documents.filter fun e => e.2.isSupported) (check w o).runs := by
  obtain ⟨runs, -⟩ := fulfils.batch.runs_eq_and_log_perm ends.on
  have launches : (Session.launchesOf (openingsFor w.files documents folders) l
      (openingsFor w.files documents folders).length).map Prod.snd =
        documents.filterMap fun e => l.launch? ⟨w.files, ⟨e.2, folders⟩⟩ := by
    rw [Session.map_launchesOf, openingsFor, requestsFor, List.map_map, List.filterMap_map]
    rfl
  have commands : (check w o).runs =
      (documents.filterMap fun e => l.launch? ⟨w.files, ⟨e.2, folders⟩⟩).map Prod.fst := by
    rw [ends.runs_eq, runs, ← launches, List.map_map, List.map_map]
    rfl
  rw [commands, List.forall₂_map_right_iff]
  exact ends.prepared.launches

theorem EndsCleanly.reported (ends : EndsCleanly w o l documents folders s)
    (fulfils : Session.Fulfils (openingsFor w.files documents folders) l answers told s) :
    Reported documents answers (reportsOf s documents) := by
  apply reported_of_outcomes
  intro i e listed
  have asked : (openingsFor w.files documents folders)[i]? = some ⟨w.files, ⟨e.2, folders⟩⟩ :=
    getElem?_openingsFor_eq_some_iff.2 ⟨e, listed, rfl⟩
  rw [fulfils.outcome?_eq ends.on, asked, Option.map_some, Linter.outcomeOf,
    ends.prepared.callOutcome_eq (List.mem_of_getElem? listed)]

/-- What a call was told whose command was run by a command that ends cleanly. -/
theorem EndsCleanly.harmless_or_soft (ends : EndsCleanly w o l documents folders s)
    (fulfils : Session.Fulfils (openingsFor w.files documents folders) l answers told s)
    {call : Nat} {a : Answer} (heard : (call, a) ∈ told) : a.IsHarmless ∨ a.IsSoft := by
  have own : a = answers call := fulfils.own (call, a) heard
  obtain ⟨c, asked, i, debug, ready⟩ := fulfils.batch.isRun_of_told heard
  obtain ⟨e, listed, rfl⟩ := getElem?_openingsFor_eq_some_iff.1 asked
  have ended : s.outcome? call = some (Answer.outcome a) := by
    rw [fulfils.outcome?_eq ends.on, asked, Option.map_some, Linter.outcomeOf_of_run ready, own]
  obtain ⟨ds, listed'⟩ := exists_ok_of_unbroken ends.unbroken ended
  have found := (fulfils.batch.isOn_iff.1 ends.on).2 (call, a) heard
  rcases Answer.cases_of_outcome listed' found with ⟨c, r, same, holds⟩ | soft
  · refine Or.inl ⟨c, r, same, holds, fun comment member blocks => ?_⟩
    -- a blocking comment would block the command
    have supported := (ends.prepared.isRun_iff (List.mem_of_getElem? listed)).1 ⟨i, debug, ready⟩
    have accepts : Accepts e.2 (answers call) r := ⟨supported, c, own.symm.trans same, holds⟩
    have any := (ends.reported fulfils).anyBlocking_iff.2
      ⟨comment, ⟨call, e, r, listed, accepts, member⟩, blocks⟩
    cases ends.quiet.symm.trans any
  · exact Or.inr soft

end

/-! ## A command for one script -/

def scriptPath : Path := Path.ofNames .root ["a"]

/-- Files with one script among them, and a runner that has one reply for every command. -/
def scriptWith (reply : Reply) : Surroundings :=
  ⟨⟨[(["a"], .file true false (Text.Utf8.encode "echo $a\n".toList))], []⟩, [], fun _ _ => reply,
    false⟩

def scriptOptions : CheckOptions := ⟨none, none, [], .text, true, false, [scriptPath]⟩

theorem load_script (reply : Reply) :
    ∃ d, Document.load (scriptWith reply).files scriptPath = .ok d ∧ d.isSupported = true := by
  have decoded : Document.textOf (Text.Utf8.encode "echo $a\n".toList) = .ok "echo $a\n" := by
    have known : (Document.textOf (Text.Utf8.encode "echo $a\n".toList)).toOption =
        some "echo $a\n" := by decide +kernel
    cases text : Document.textOf (Text.Utf8.encode "echo $a\n".toList) <;>
      simp_all [Except.toOption]
  exact ⟨_, Document.load_of_root_entry (by decide) (by decide) (by decide) (by decide) rfl decoded,
    by decide +kernel⟩

/-- How a command for one script ends, whatever the reply is. -/
theorem ends_on_script {reply : Reply} (usual : reply.answer.IsUsual) {d : Document}
    (loaded : Document.load (scriptWith reply).files scriptPath = .ok d) :
    Ends .text [(scriptPath, d)] (fun _ => reply.answer) False
      (ended (check (scriptWith reply) scriptOptions).outcome) := by
  generalize given : scriptWith reply = w at loaded ⊢
  have accepted : Settings.ofEnvironment w.environment = .ok {} := by
    rw [← given]
    rfl
  have base : scriptOptions.cwd.mapM w.files.resolve = .ok none := rfl
  have on : (Linter.ofConfig
      ((withExecutable {} scriptOptions.executable).toConfig none)).isOn = true := by
    decide
  generalize made :
    Linter.ofConfig ((withExecutable {} scriptOptions.executable).toConfig none) = l at on
  have prepared : Prepared w.files l [(scriptPath, d)] [] := by
    refine ⟨on, ?_, fun e member => ?_, by simp⟩
    · rw [← made]
      decide
    · rw [List.mem_singleton.1 member]
      exact loaded
  have loadedAll : loadAll w.files scriptOptions.paths = .ok ⟨[(scriptPath, d)], []⟩ := by
    simp only [scriptOptions, loadAll, loaded]
    rfl
  have opened : loadFolders w.files scriptOptions.folders = .ok [] := rfl
  have assigned : Answers w.runner [(scriptPath, d)] fun _ => reply.answer := by
    intro i entry invocation _ _
    rw [← given]
    rfl
  obtain ⟨calls, schedule, completes⟩ := Session.lintAll_schedule on prepared.sound
    (fun _ => usual.exists_outcome) (prepared.assigns assigned)
  have complete : (([] : List (Path × LoadFault)).isEmpty = false) = False := by simp
  simp only [check, accepted, base, made, on, if_true, checkWith, loadedAll, opened]
  rw [← complete]
  exact ends_of_schedule (o := scriptOptions) prepared (fun _ => usual) schedule completes _ _ _

/-- A command for one script ends cleanly if the reply is usual, the executable is there and no
comment of a report in the reply blocks. -/
theorem exists_clean_end_on_script (reply : Reply) (usual : reply.answer.IsUsual)
    (found : Answer.isUnavailable reply.answer = false)
    (quiet : ∀ c r, reply.answer = .ok c → Report.Holds c.output r →
      ∀ comment ∈ r.comments, ¬ comment.IsBlocking) :
    ∃ f, (check (scriptWith reply) scriptOptions).outcome = .ok f ∧ f.code = exitClean := by
  obtain ⟨d, loaded, -⟩ := load_script reply
  have ends := ends_on_script usual loaded
  have kept : ¬ IsLost [(scriptPath, d)] fun _ => reply.answer := by
    rintro ⟨i, e, -, -, missing⟩
    rw [found] at missing
    cases missing
  obtain ⟨reports, code, text, -, -, result, -, -, zero⟩ :=
    ends.printed kept (by simp [IsUnprintable])
  have clean : code = exitClean := by
    refine zero.2 ⟨id, ?_⟩
    rintro ⟨comment, ⟨i, e, r, -, ⟨-, c, same, holds⟩, member⟩, blocks⟩
    exact quiet c r same holds comment member blocks
  cases outcome : (check (scriptWith reply) scriptOptions).outcome with
  | error fault =>
      rw [outcome] at result
      cases result
  | ok f =>
      rw [outcome] at result
      exact ⟨f, rfl, (congrArg Prod.fst (Except.ok.inj result)).trans clean⟩

/-- A command that ends with zero, as it does if it says that nothing was found, has loaded a
document from every path and run one command for each supported document, in order and with its
text for input. Every answer was a report without a blocking comment or a soft failure; in
particular no executable was missing. -/
theorem clean_end_is_sound (w : Surroundings) (o : CheckOptions) :
    ∀ f, (check w o).outcome = .ok f → f.code = exitClean ∨ SaysNothingFound w o f →
      ∃ documents : List (Path × Document), documents.map Prod.fst = o.paths ∧
        (∀ e ∈ documents, Document.load w.files e.1 = .ok e.2) ∧
        List.Forall₂ (fun (e : Path × Document) (i : Invocation) => i.input = some e.2.text)
          (documents.filter fun e => e.2.isSupported) (check w o).runs ∧
        ∀ m i, (check w o).runs[m]? = some i →
          (w.runner m i).answer.IsHarmless ∨ (w.runner m i).answer.IsSoft := by
  intro f ended good
  have clean : f.code = exitClean := good.elim id SaysNothingFound.code_eq
  obtain ⟨l, documents, folders, s, ends⟩ := exists_endsCleanly ended clean
  obtain ⟨⟨told, served⟩, none_waits⟩ :=
    Session.lintAll_served w.files w.runner (requestsFor documents folders) l
  rw [← ends.session_eq] at served none_waits
  obtain ⟨answers, own⟩ := served.batch.exists_answers
  have fulfils : Session.Fulfils (openingsFor w.files documents folders) l answers told s := by
    refine ⟨?_, own, none_waits⟩
    rw [openingsFor, List.length_map]
    exact served.batch
  refine ⟨documents, ends.paths_eq, ends.prepared.loaded, ends.runs_forall₂ fulfils,
    fun m i ran => ?_⟩
  rw [ends.runs_eq, List.getElem?_map, Option.map_eq_some_iff] at ran
  obtain ⟨⟨call, i'⟩, ran, rfl⟩ := ran
  exact ends.harmless_or_soft fulfils (served.told_of_run none_waits ran)

theorem clean_end_is_sound_on_note :
    let c : Completion := ⟨["shellcheck"], 1,
      "\x7b\"comments\": [\x7b\"file\": \"-\", \"line\": 1, \"endLine\": 1, \"column\": 6, " ++
        "\"endColumn\": 8, \"level\": \"info\", \"code\": 2086, \"message\": \"quote\", " ++
        "\"fix\": null\x7d]\x7d", ""⟩
    let w := scriptWith ⟨.ok c, 3⟩
    Answer.IsHarmless (.ok c) ∧
      ∃ f, (check w scriptOptions).outcome = .ok f ∧ f.code = exitClean ∧
        ∃ documents : List (Path × Document), documents.map Prod.fst = [scriptPath] ∧
          (∀ e ∈ documents, Document.load w.files e.1 = .ok e.2) ∧
          List.Forall₂ (fun (e : Path × Document) (i : Invocation) => i.input = some e.2.text)
            (documents.filter fun e => e.2.isSupported) (check w scriptOptions).runs := by
  intro c w
  obtain ⟨r, holds, levels⟩ : ∃ r, Report.Holds c.output r ∧
      r.comments.map Comment.level = ["info"] := by
    have noted : (Report.ofText c.output).toOption.any (fun r =>
        r.comments.map Comment.level == ["info"]) = true := by decide +kernel
    cases read : Report.ofText c.output with
    | error fault => simp [read, Except.toOption] at noted
    | ok r =>
        have levels : r.comments.map Comment.level = ["info"] := by
          simpa [read, Except.toOption] using noted
        obtain ⟨value, parsed, checked⟩ := (Report.ofText_eq_ok_iff _ _).1 read
        refine ⟨r, ⟨value, parsed, checked, fun comment member => ?_⟩, levels⟩
        have level : comment.level ∈ r.comments.map Comment.level := List.mem_map_of_mem member
        rw [levels, List.mem_singleton] at level
        rw [Comment.HasKnownLevel, level]
        decide
  have quiet : ∀ comment ∈ r.comments, ¬ comment.IsBlocking := by
    intro comment member
    have level : comment.level ∈ r.comments.map Comment.level := List.mem_map_of_mem member
    rw [levels, List.mem_singleton] at level
    rw [Comment.IsBlocking, level]
    decide
  obtain ⟨f, ended, clean⟩ := exists_clean_end_on_script ⟨.ok c, 3⟩
    (.completed c holds.not_hasLongInteger) rfl fun c' r' same holds' => by
      obtain rfl := Except.ok.inj same
      rw [holds'.unique holds]
      exact quiet
  obtain ⟨documents, paths_eq, loaded, runs, -⟩ :=
    clean_end_is_sound w scriptOptions f ended (Or.inl clean)
  exact ⟨⟨c, r, rfl, holds, quiet⟩, f, ended, clean, documents, paths_eq, loaded, runs⟩

/-- The one command of a run may take too long, and the run still ends with zero. -/
theorem clean_end_without_report :
    let w := scriptWith ⟨.error (.timedOut "shellcheck" (Binary64.ofInt 30)), 3⟩
    ∃ d f, Document.load w.files scriptPath = .ok d ∧ d.isSupported = true ∧
      (check w scriptOptions).outcome = .ok f ∧ f.code = exitClean ∧
      ∀ m i c r, (w.runner m i).answer = .ok c → ¬ Report.Holds c.output r := by
  intro w
  let late : Answer := .error (.timedOut "shellcheck" (Binary64.ofInt 30))
  obtain ⟨d, loaded, supported⟩ := load_script ⟨late, 3⟩
  obtain ⟨f, ended, clean⟩ :=
    exists_clean_end_on_script ⟨late, 3⟩ (.failed _ rfl) rfl fun c r same => by cases same
  refine ⟨d, f, loaded, supported, ended, clean, fun m i c r same => ?_⟩
  cases same

end CommandLine

end LintBridge
