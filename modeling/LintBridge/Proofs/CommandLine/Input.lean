import LintBridge.Proofs.CommandLine.CleanExit
import LintBridge.Proofs.Text.LineEnds

/-!
# What the analyser reads

Every command that is run reads the text of a document that was loaded, and in loading all line ends
become line feeds. So the octets that a command reads are those of the file exactly if there is no
carriage return among them; of a file with one the analyser sees another text
(`reads_unified_line_ends`).
-/
set_option autoImplicit false

namespace LintBridge

/-- The octets that a command is given to read. -/
def Invocation.payload (i : Invocation) : List UInt8 := Script.octetsOf (i.input.getD "")

/-- A file that holds a script: it can be read, its octets are those of a text, and this declares a
known dialect or none. -/
structure HoldsScript (fs : FileSystem) (p : Path) (octets : List UInt8) (text : List Char) :
    Prop where
  readable : ∃ resolved, fs.resolve p = .ok resolved ∧ fs.read resolved = .ok octets
  decoded : Text.Utf8.decode octets = .ok text
  known : (Dialect.argument? (String.ofList (Text.unifyLineEnds text))).isSome = true

/-- A command that reads a text with line feeds for all its line ends. -/
structure Invocation.ReadsUnified (i : Invocation) (octets : List UInt8) (text : List Char) :
    Prop where
  payload_eq : i.payload = Text.Utf8.encode (Text.unifyLineEnds text)
  whole_iff : i.payload = octets ↔ 13 ∉ octets

theorem Invocation.readsUnified_of_input {i : Invocation} {octets : List UInt8} {text : List Char}
    (decoded : Text.Utf8.decode octets = .ok text)
    (input : i.input = some (String.ofList (Text.unifyLineEnds text))) :
    i.ReadsUnified octets text := by
  have payload_eq : i.payload = Text.Utf8.encode (Text.unifyLineEnds text) := by
    rw [payload, input, Option.getD_some, Script.octetsOf, String.toList_ofList]
  have origin : Text.Utf8.encode text = octets := Text.Utf8.decode_eq_ok_iff.1 decoded
  refine ⟨payload_eq, ?_⟩
  have carriageReturn : (13 : UInt8) ∈ octets ↔ '\r' ∈ text := by
    rw [← origin]
    exact Text.Utf8.mem_encode_iff (n := 13) (by decide) text
  rw [payload_eq, carriageReturn, ← Text.unifyLineEnds_eq_self_iff, ← Text.Utf8.encode_inj, origin]

namespace CommandLine

section

variable {fs : FileSystem} {runner : Runner} {l : Linter} {documents : List (Path × Document)}
  {folders : List WorkspaceFolder} {told : List (Nat × Answer)} {n : Nat} {s : Session}

/-- A command that was run reads the text of one of the documents, which is supported. -/
theorem exists_document_of_run
    (served : Session.Served fs runner (requestsFor documents folders) l n told s)
    {i : Invocation} (ran : i ∈ s.runs.map Prod.snd) :
    ∃ e ∈ documents, e.2.isSupported = true ∧ i.input = some e.2.text := by
  obtain ⟨⟨call, i⟩, started, rfl⟩ := List.mem_map.1 ran
  have launched : ∃ c i' debug, (openingsFor fs documents folders)[call]? = some c ∧
      l.taskOf c = .run i' debug ∧ ∀ j, (call, j) ∈ s.runs ↔ j = i' := by
    cases served.batch.standing call with
    | ahead later fresh idle => exact absurd started (idle i)
    | leftAlone before c asked waits_not idle => exact absurd started (idle i)
    | waiting before c asked j debug ready own => exact ⟨c, j, debug, asked, ready, own⟩
    | ended before c asked j debug ready own => exact ⟨c, j, debug, asked, ready, own⟩
  obtain ⟨c, j, debug, asked, ready, own⟩ := launched
  obtain rfl := (own i).1 started
  obtain ⟨e, listed, rfl⟩ := getElem?_openingsFor_eq_some_iff.1 asked
  exact ⟨e, List.mem_of_getElem? listed, (Linter.prepare_eq_run ready).1.known,
    Linter.input_of_run ready⟩

/-- If the linter is on to the end, the text of every supported document was read. -/
theorem exists_run_of_supported (prepared : Prepared fs l documents folders)
    (served : Session.Served fs runner (requestsFor documents folders) l documents.length told s)
    (stillOn : s.linter.isOn = true) {e : Path × Document} (member : e ∈ documents)
    (supported : e.2.isSupported = true) :
    ∃ i ∈ s.runs.map Prod.snd, i.input = some e.2.text := by
  obtain ⟨call, bound, found⟩ := List.mem_iff_getElem.1 member
  have listed : documents[call]? = some e := by rw [← found, List.getElem?_eq_getElem bound]
  have asked : (openingsFor fs documents folders)[call]? = some ⟨fs, ⟨e.2, folders⟩⟩ :=
    getElem?_openingsFor_eq_some_iff.2 ⟨e, listed, rfl⟩
  have run := (prepared.isRun_iff member).2 supported
  have launched : ∃ c i debug, (openingsFor fs documents folders)[call]? = some c ∧
      l.taskOf c = .run i debug ∧ (call, i) ∈ s.runs := by
    cases served.batch.standing call with
    | ahead later => exact absurd bound (Nat.not_lt.2 later)
    | leftAlone before c asked' waits_not idle untold outcome =>
        obtain rfl := Option.some.inj (asked.symm.trans asked')
        exact absurd run (outcome stillOn).1
    | waiting before c asked' i debug ready own => exact ⟨c, i, debug, asked', ready, (own i).2 rfl⟩
    | ended before c asked' i debug ready own => exact ⟨c, i, debug, asked', ready, (own i).2 rfl⟩
  obtain ⟨c, i, debug, asked', ready, ran⟩ := launched
  obtain rfl := Option.some.inj (asked.symm.trans asked')
  exact ⟨i, List.mem_map_of_mem ran, Linter.input_of_run ready⟩

/-- A linter stays on if no command is answered with its executable missing. -/
theorem isOn_of_found {requests : List LintRequest}
    (served : Session.Served fs runner requests l n told s) (on : l.isOn = true)
    (found : ∀ m i, Answer.isUnavailable (runner m i).answer = false) :
    s.linter.isOn = true := by
  rw [served.batch.isOn_iff]
  refine ⟨on, ?_⟩
  intro e heard
  obtain ⟨m, i, -, same⟩ := served.replied e heard
  rw [same]
  exact found m i

end

/-! ## The command -/

/-- A command with an executable whose paths are all resolved runs what it takes to lint the
documents that can be loaded. -/
theorem runs_of_configured {w : Surroundings} {o : CheckOptions}
    (resolves : ∀ p ∈ o.named, ∃ q, w.files.resolve p = .ok q)
    (configured : IsConfigured w.environment o) :
    ∃ l folders, Prepared w.files l (readable w.files o.paths) folders ∧
      (check w o).runs = (Session.lintAll { linter := l } w.files w.runner
        (requestsFor (readable w.files o.paths) folders)).runs.map Prod.snd := by
  obtain ⟨settings, name, accepted, -⟩ := id configured
  obtain ⟨cwd, base⟩ := mapM_resolve_eq_ok fun p (member : o.cwd = some p) =>
    resolves p (by simp [CheckOptions.named, member])
  have on := (isOn_iff_isConfigured accepted o cwd).2 configured
  have pathsResolve : ∀ p ∈ o.paths, ∃ q, w.files.resolve p = .ok q := by
    intro p member
    apply resolves
    simp [CheckOptions.named, member]
  have foldersResolve : ∀ p ∈ o.folders, ∃ q, w.files.resolve p = .ok q := by
    intro p member
    apply resolves
    simp [CheckOptions.named, member]
  obtain ⟨unreadable, loaded, -⟩ := loadAll_eq pathsResolve
  obtain ⟨folders, opened, loadedFolders⟩ := loadFolders_eq foldersResolve
  refine ⟨_, folders, ⟨on, on, fun e => load_of_mem_readable, loadedFolders⟩, ?_⟩
  simp only [check, accepted, base, on, if_true, checkWith, loaded, opened]
  rfl

/-- Every command that is run reads a script from one of the paths, with line feeds for all its line
ends: the octets of the file if there is no carriage return among them, and others if there is. If
the paths are resolved, an executable is configured and no command is answered that it is missing,
each script is read in this way. -/
theorem reads_unified_line_ends (w : Surroundings) (o : CheckOptions) :
    (∀ i ∈ (check w o).runs, ∃ p ∈ o.paths, ∃ octets text,
      HoldsScript w.files p octets text ∧ i.ReadsUnified octets text) ∧
    ((∀ p ∈ o.named, ∃ q, w.files.resolve p = .ok q) → IsConfigured w.environment o →
      (∀ m i, Answer.isUnavailable (w.runner m i).answer = false) →
        ∀ p ∈ o.paths, ∀ octets text, HoldsScript w.files p octets text →
          ∃ i ∈ (check w o).runs, i.ReadsUnified octets text) := by
  constructor
  · intro i ran
    rcases check_cases w o with ⟨p, message, refused⟩ | ⟨fault, broken⟩ | ⟨p, l, -, -, same⟩
    · rw [refused] at ran
      cases ran
    · rw [broken] at ran
      cases ran
    · rcases checkWith_cases w o p l with
        ⟨fault, broken⟩ | ⟨loaded, folders, t, s, loadedAll, -, session_eq, concluded⟩
      · rw [same, broken] at ran
        cases ran
      · rw [same, concluded] at ran
        obtain ⟨⟨told, served⟩, -⟩ := Session.lintAll_served w.files w.runner
          (requestsFor loaded.documents folders) l
        rw [← session_eq] at served
        obtain ⟨e, member, supported, input⟩ := exists_document_of_run served ran
        rw [documents_of_loadAll loadedAll] at member
        obtain ⟨resolved, octets, text, found, readable, decoded, document⟩ :=
          Document.load_eq_ok_iff.1 (load_of_mem_readable member)
        refine ⟨e.1, path_of_mem_readable member, octets, text, ?_, ?_⟩
        · rw [Document.isSupported, document] at supported
          exact ⟨⟨resolved, found, readable⟩, decoded, supported⟩
        · rw [document] at input
          exact Invocation.readsUnified_of_input decoded input
  · intro resolves configured found p named octets text script
    obtain ⟨l, folders, prepared, runs⟩ := runs_of_configured resolves configured
    obtain ⟨⟨told, served⟩, -⟩ := Session.lintAll_served w.files w.runner
      (requestsFor (readable w.files o.paths) folders) l
    have stillOn := isOn_of_found served prepared.on found
    rw [requestsFor, List.length_map, ← requestsFor] at served
    obtain ⟨resolved, located, readable⟩ := script.readable
    have loaded := Document.load_eq_ok_iff.2
      ⟨resolved, octets, text, located, readable, script.decoded, rfl⟩
    have member := mem_readable named loaded
    obtain ⟨i, ran, input⟩ := exists_run_of_supported prepared served stillOn member script.known
    refine ⟨i, ?_, Invocation.readsUnified_of_input script.decoded input⟩
    rw [runs]
    exact ran

theorem carriage_return_is_not_read :
    let octets := Text.Utf8.encode "echo a\r\n".toList
    let w : Surroundings :=
      ⟨⟨[(["a"], .file true false octets)], []⟩, [], fun _ _ => ⟨.error .cancelled, 1⟩, false⟩
    HoldsScript w.files scriptPath octets "echo a\r\n".toList ∧
      ∃ i ∈ (check w scriptOptions).runs,
        i.payload = Text.Utf8.encode "echo a\n".toList ∧ i.payload ≠ octets := by
  intro octets w
  have entry : w.files.node? ["a"] = some (.file true false octets) := rfl
  have resolved : w.files.resolve scriptPath = .ok scriptPath :=
    FileSystem.resolve_of_root_entry (by decide) (by decide) (by decide) (by decide) entry (by simp)
  have found : w.files.stat scriptPath = .ok (.file true false octets) :=
    FileSystem.stat_of_root_entry (by decide) (by decide) (by decide) entry (by simp)
  have readable : w.files.read scriptPath = .ok octets := by
    rw [FileSystem.read, found]
    rfl
  have script : HoldsScript w.files scriptPath octets "echo a\r\n".toList :=
    ⟨⟨scriptPath, resolved, readable⟩, Text.Utf8.decode_eq_ok_iff.2 rfl, by decide +kernel⟩
  have resolves : ∀ p ∈ scriptOptions.named, ∃ q, w.files.resolve p = .ok q := by
    intro p member
    obtain rfl : p = scriptPath := by
      simpa [CheckOptions.named, scriptOptions] using member
    exact ⟨scriptPath, resolved⟩
  have configured : IsConfigured w.environment scriptOptions :=
    ⟨{}, "shellcheck", rfl, by decide, Or.inr ⟨rfl, rfl⟩⟩
  obtain ⟨i, ran, reads⟩ := (reads_unified_line_ends w scriptOptions).2 resolves configured
    (fun _ _ => rfl) scriptPath (List.mem_singleton_self _) octets _ script
  refine ⟨script, i, ran, reads.payload_eq, ?_⟩
  rw [Ne, reads.whole_iff]
  decide +kernel

end CommandLine

end LintBridge
