import LintBridge.Proofs.CommandLine.CleanExit

/-!
# Paths that cannot be read

Of the paths that a command is given, those that can be read and decoded are loaded, in order, and
of each other one the reason is kept (`Accounts`). The reasons are told on error output before
anything else, with one message for each such path, and the command ends with two. What is not
accounted for is a path that cannot be resolved: the first of these stops the loading, and nothing
is left of what was loaded before (`every_path_is_accounted_for`).
-/
set_option autoImplicit false

namespace LintBridge

/-- Whether the file at a path can be read and its octets are those of a text. -/
def CanBeRead (fs : FileSystem) (p : Path) : Prop := ∃ d, IsReadAs fs p d

instance (fs : FileSystem) (p : Path) : Decidable (CanBeRead fs p) :=
  match loaded : Document.load fs p with
  | .ok d => .isTrue ⟨d, Document.load_eq_ok_iff_isReadAs.1 loaded⟩
  | .error fault =>
    .isFalse fun ⟨d, isRead⟩ => by
      rw [Document.load_eq_ok_iff_isReadAs.2 isRead] at loaded
      cases loaded

theorem not_canBeRead_of_readFails {fs : FileSystem} {p : Path} {fault : LoadFault}
    (fails : ReadFails fs p fault) : ¬ CanBeRead fs p := by
  rintro ⟨d, isRead⟩
  cases (Document.load_of_readFails fails).symm.trans (Document.load_eq_ok_iff_isReadAs.2 isRead)

theorem ReadFails.exists_resolved {fs : FileSystem} {p : Path} {fault : LoadFault}
    (fails : ReadFails fs p fault) : ∃ resolved, fs.resolve p = .ok resolved := by
  cases fails with
  | read found => exact ⟨_, found⟩
  | decode found => exact ⟨_, found⟩

namespace CommandLine

/-! ## What becomes of the paths -/

/-- What becomes of some paths: those that can be read are loaded, in order, and the others are kept,
in order too, each with the reason why it cannot be read. -/
structure Accounts (fs : FileSystem) (paths : List Path) (loaded : Loaded) : Prop where
  documents_paths : loaded.documents.map Prod.fst = paths.filter fun p => CanBeRead fs p
  unreadable_paths : loaded.unreadable.map Prod.fst = paths.filter fun p => ¬ CanBeRead fs p
  isRead : ∀ e ∈ loaded.documents, IsReadAs fs e.1 e.2
  fails : ∀ e ∈ loaded.unreadable, ReadFails fs e.1 e.2

/-- The first of some paths that cannot be resolved stops their loading with its fault. -/
def BreaksOff (fs : FileSystem) (paths : List Path) (fault : ResolveFault) : Prop :=
  ∃ before p after, paths = before ++ p :: after ∧
    (∀ q ∈ before, ∃ resolved, fs.resolve q = .ok resolved) ∧ fs.resolve p = .error fault

section

variable {fs : FileSystem} {p : Path} {paths : List Path} {loaded : Loaded}

theorem Accounts.cons_document (accounts : Accounts fs paths loaded) {d : Document}
    (isRead : IsReadAs fs p d) :
    Accounts fs (p :: paths) { loaded with documents := (p, d) :: loaded.documents } := by
  have can : CanBeRead fs p := ⟨d, isRead⟩
  refine ⟨?_, ?_, List.forall_mem_cons.2 ⟨isRead, accounts.isRead⟩, accounts.fails⟩
  · rw [List.filter_cons_of_pos (by simpa using can), List.map_cons, accounts.documents_paths]
  · rw [List.filter_cons_of_neg (by simpa using can), accounts.unreadable_paths]

theorem Accounts.cons_unreadable (accounts : Accounts fs paths loaded) {fault : LoadFault}
    (fails : ReadFails fs p fault) :
    Accounts fs (p :: paths) { loaded with unreadable := (p, fault) :: loaded.unreadable } := by
  have cannot := not_canBeRead_of_readFails fails
  refine ⟨?_, ?_, accounts.isRead, List.forall_mem_cons.2 ⟨fails, accounts.fails⟩⟩
  · rw [List.filter_cons_of_neg (by simpa using cannot), accounts.documents_paths]
  · rw [List.filter_cons_of_pos (by simpa using cannot), List.map_cons, accounts.unreadable_paths]

theorem accounts_of_loadAll (loadedAll : loadAll fs paths = .ok loaded) :
    Accounts fs paths loaded := by
  induction paths generalizing loaded with
  | nil =>
      obtain rfl := Except.ok.inj loadedAll
      exact ⟨rfl, rfl, List.forall_mem_nil _, List.forall_mem_nil _⟩
  | cons p more ih =>
      rcases load_cases fs p with ⟨fault, unresolved⟩ | ⟨d, isRead⟩ | ⟨fault, fails⟩
      · rw [loadAll_cons_of_resolve unresolved] at loadedAll
        cases loadedAll
      · rw [loadAll_cons_of_load (Document.load_eq_ok_iff_isReadAs.2 isRead)] at loadedAll
        obtain ⟨rest, others, rfl⟩ := Json.map_eq_ok loadedAll
        exact (ih others).cons_document isRead
      · rw [loadAll_cons_of_readFails fails] at loadedAll
        obtain ⟨rest, others, rfl⟩ := Json.map_eq_ok loadedAll
        exact (ih others).cons_unreadable fails

theorem Accounts.isEmpty_eq_false_iff (accounts : Accounts fs paths loaded) :
    loaded.unreadable.isEmpty = false ↔ ∃ p ∈ paths, ¬ CanBeRead fs p := by
  rw [List.isEmpty_eq_false_iff, Ne, ← List.map_eq_nil_iff (f := Prod.fst),
    accounts.unreadable_paths, List.filter_eq_nil_iff]
  simp

/-- Loading goes on to the end exactly if every path is resolved. -/
theorem exists_loadAll_iff :
    (∃ loaded, loadAll fs paths = .ok loaded) ↔ ∀ p ∈ paths, ∃ q, fs.resolve p = .ok q := by
  constructor
  · rintro ⟨loaded, loadedAll⟩ p named
    have accounts := accounts_of_loadAll loadedAll
    by_cases can : CanBeRead fs p
    · obtain ⟨d, resolved, text, found, -⟩ := can
      exact ⟨resolved, found⟩
    · have kept : p ∈ loaded.unreadable.map Prod.fst := by
        rw [accounts.unreadable_paths]
        exact List.mem_filter.2 ⟨named, by simpa using can⟩
      obtain ⟨e, member, rfl⟩ := List.mem_map.1 kept
      exact (accounts.fails e member).exists_resolved
  · intro resolves
    obtain ⟨unreadable, loadedAll, -⟩ := loadAll_eq resolves
    exact ⟨_, loadedAll⟩

theorem breaksOff_cons_iff {fault : ResolveFault} :
    BreaksOff fs (p :: paths) fault ↔
      fs.resolve p = .error fault ∨ (∃ q, fs.resolve p = .ok q) ∧ BreaksOff fs paths fault := by
  constructor
  · rintro ⟨before, broken, after, split, resolved, unresolved⟩
    cases before with
    | nil =>
        obtain ⟨rfl, -⟩ := List.cons.inj split
        exact .inl unresolved
    | cons first before =>
        obtain ⟨rfl, rest⟩ := List.cons.inj split
        rw [List.forall_mem_cons] at resolved
        exact .inr ⟨resolved.1, before, broken, after, rest, resolved.2, unresolved⟩
  · rintro (unresolved | ⟨found, before, broken, after, rfl, resolved, unresolved⟩)
    · exact ⟨[], p, paths, rfl, List.forall_mem_nil _, unresolved⟩
    · exact ⟨p :: before, broken, after, rfl, List.forall_mem_cons.2 ⟨found, resolved⟩, unresolved⟩

theorem loadAll_eq_error_iff {fault : ResolveFault} :
    loadAll fs paths = .error fault ↔ BreaksOff fs paths fault := by
  induction paths with
  | nil =>
      constructor
      · intro failed
        cases failed
      · rintro ⟨before, broken, after, split, -⟩
        simp at split
  | cons p more ih =>
      rw [breaksOff_cons_iff]
      rcases load_cases fs p with ⟨other, unresolved⟩ | ⟨d, isRead⟩ | ⟨other, fails⟩
      · rw [loadAll_cons_of_resolve unresolved, unresolved]
        simp
      · obtain ⟨resolved, text, found, -⟩ := id isRead
        rw [loadAll_cons_of_load (Document.load_eq_ok_iff_isReadAs.2 isRead), found, ← ih]
        cases loadAll fs more <;> simp [Except.map]
      · obtain ⟨resolved, found⟩ := fails.exists_resolved
        rw [loadAll_cons_of_readFails fails, found, ← ih]
        cases loadAll fs more <;> simp [Except.map]

end

/-! ## What is told about them -/

/-- The message about a path that could not be read. -/
def unreadMessage (e : Path × LoadFault) : String := s!"Unable to read {e.1}: {e.2.message}"

/-- What is written about the paths that could not be read: one message for each of them. -/
def unreadLines (p : Preferences) (isTerminal : Bool) (unreadable : List (Path × LoadFault)) :
    String :=
  String.join (unreadable.map fun e => statusLine p isTerminal .failure (unreadMessage e))

/-- The preferences that a command line asks for. -/
def CheckOptions.preferences (o : CheckOptions) : Preferences :=
  { emoji := o.emoji, debug := o.debug }

/-- What a command ends with that has loaded its paths: on error output each path that could not be
read is told first, then what was logged, and the code is two if there is such a path. -/
structure TellsUnread (w : Surroundings) (o : CheckOptions) (p : Preferences) (f : Finish)
    (loaded : Loaded) : Prop where
  errors_eq : ∃ (log : List LogEntry) (praise : String), (praise = "" ∨ f.code = exitClean) ∧
    f.errors = unreadLines p w.isTerminal loaded.unreadable ++
      String.join (log.map (logLine p w.isTerminal)) ++ praise
  code_eq : loaded.unreadable.isEmpty = false → f.code = exitFailure

section

variable {w : Surroundings} {o : CheckOptions} {p : Preferences} {l : Linter} {f : Finish}

theorem text_of_folds (p : Preferences) (isTerminal : Bool) (unreadable : List (Path × LoadFault))
    (log : List LogEntry) :
    (log.foldl (fun (t : Transcript) entry => t.log p isTerminal entry)
      (unreadable.foldl (fun (t : Transcript) (path, fault) =>
        t.status p isTerminal .failure s!"Unable to read {path}: {fault.message}") {})).text =
      unreadLines p isTerminal unreadable ++ String.join (log.map (logLine p isTerminal)) := by
  have told (t : Transcript) (e : Path × LoadFault) :=
    t.text_status p isTerminal .failure (unreadMessage e)
  have first : (unreadable.foldl (fun (t : Transcript) (path, fault) =>
      t.status p isTerminal .failure s!"Unable to read {path}: {fault.message}") {}).text =
        unreadLines p isTerminal unreadable :=
    (Transcript.text_foldl told unreadable {}).trans String.empty_append
  rw [Transcript.text_foldl fun t entry => t.text_log p isTerminal entry, first]

theorem tellsUnread_of_conclude {loaded : Loaded} {t : Transcript} {s : Session}
    {log : List LogEntry} (written : t.text = unreadLines p w.isTerminal loaded.unreadable ++
      String.join (log.map (logLine p w.isTerminal)))
    (ended : conclude w o p loaded t s = .ok f) : TellsUnread w o p f loaded := by
  obtain ⟨-, ⟨-, rfl⟩ | ⟨-, output, rfl⟩⟩ := conclude_cases ended
  · exact ⟨⟨log, "", .inl rfl, by rw [String.append_empty, written]⟩, fun _ => rfl⟩
  · refine ⟨⟨log, _, ?_, by rw [written]⟩, fun incomplete => ?_⟩
    · exact praiseLine_eq_or w o p _ _
    · rw [incomplete]
      rfl

theorem exists_conclude_of_text {w : Surroundings} {o : CheckOptions} {p : Preferences}
    {loaded : Loaded} {t : Transcript} {s : Session} (unbroken : faultOfSession? s = none)
    (format : o.format = .text) : ∃ f, conclude w o p loaded t s = .ok f := by
  rw [conclude, unbroken]
  by_cases on : s.linter.isOn = true
  · simp only [on, format, FileReport.render]
    exact ⟨_, rfl⟩
  · simp only [on]
    exact ⟨_, rfl⟩

/-- A command that goes on to an end has loaded its paths. -/
theorem exists_tellsUnread (ended : (checkWith w o p l).outcome = .ok f) :
    ∃ loaded, loadAll w.files o.paths = .ok loaded ∧ TellsUnread w o p f loaded := by
  unfold checkWith at ended
  split at ended
  · cases ended
  · rename_i loaded loadedAll
    split at ended
    · cases ended
    · exact ⟨loaded, loadedAll, tellsUnread_of_conclude (text_of_folds p w.isTerminal _ _) ended⟩

theorem checkWith_of_breaksOff {fault : ResolveFault} (broken : BreaksOff w.files o.paths fault)
    (p : Preferences) (l : Linter) : checkWith w o p l = breakDown fault := by
  rw [checkWith, loadAll_eq_error_iff.2 broken]

/-- A command with an executable breaks down over its directory or goes on with what its command
line asks for. -/
theorem check_of_configured (configured : IsConfigured w.environment o) :
    (∃ fault, o.cwd.mapM w.files.resolve = .error fault ∧ check w o = breakDown fault) ∨
      ∃ l, check w o = checkWith w o o.preferences l := by
  obtain ⟨settings, name, accepted, -⟩ := id configured
  cases base : o.cwd.mapM w.files.resolve with
  | error fault => exact .inl ⟨fault, rfl, by simp only [check, accepted, base]⟩
  | ok cwd =>
      have on := (isOn_iff_isConfigured accepted o cwd).2 configured
      refine .inr ⟨Linter.ofConfig ((withExecutable settings o.executable).toConfig cwd), ?_⟩
      simp only [check, accepted, base, on, if_true]
      rfl

theorem code_of_check (ended : (check w o).outcome = .ok f)
    (unread : ∃ p ∈ o.paths, ¬ CanBeRead w.files p) : f.code = exitFailure := by
  rcases check_cases w o with ⟨p, message, refused⟩ | ⟨fault, broken⟩ | ⟨p, l, -, -, same⟩
  · rw [refused] at ended
    obtain rfl := Except.ok.inj ended
    rfl
  · rw [broken] at ended
    cases ended
  · rw [same] at ended
    obtain ⟨loaded, loadedAll, tells⟩ := exists_tellsUnread ended
    exact tells.code_eq ((accounts_of_loadAll loadedAll).isEmpty_eq_false_iff.2 unread)

end

/-! ## Files with a loop of links -/

/-- A script, a directory, and a link that leads to itself. -/
def filesWithLoop : FileSystem :=
  ⟨[(["a"], .file true false (Text.Utf8.encode "echo a\n".toList)), (["d"], .directory true),
    (["l"], .link "/l")], []⟩

def rootPath (name : String) : Path := Path.ofNames .root [name]

theorem canBeRead_script : CanBeRead filesWithLoop (rootPath "a") := by
  have entry : filesWithLoop.node? ["a"] =
      some (.file true false (Text.Utf8.encode "echo a\n".toList)) := rfl
  have resolved := FileSystem.resolve_of_root_entry (by decide) (by decide) (by decide) (by decide)
    entry (by simp)
  have opened := FileSystem.read_of_root_entry (by decide) (by decide) (by decide) entry
  exact ⟨_, rootPath "a", "echo a\n".toList, resolved, opened, rfl⟩

theorem readFails_directory :
    ReadFails filesWithLoop (rootPath "d") (.read .isDirectory (rootPath "d")) := by
  have entry : filesWithLoop.node? ["d"] = some (.directory true) := rfl
  have resolved := FileSystem.resolve_of_root_entry (by decide) (by decide) (by decide) (by decide)
    entry (by simp)
  have found := FileSystem.stat_of_root_entry (by decide) (by decide) (by decide) entry (by simp)
  have refused : filesWithLoop.read (rootPath "d") = .error .isDirectory := by
    rw [rootPath, FileSystem.read, found]
  exact .read resolved refused

/-! ## The command -/

end CommandLine

end LintBridge
